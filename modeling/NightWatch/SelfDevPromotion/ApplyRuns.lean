import NightWatch.SelfDevPromotion.Apply

namespace NightWatch.SelfDevPromotion.Apply

open Lib.JsText Lib.Machine Lib.Threads Lib.Calls

section Logs

variable (setting : Setting) (checkouts : JsString → Checkout)

def Entry.leaves (root : JsString) : Entry → Option JsString
  | .renamed _ r _ written => if r.repositoryRoot = root then some written else none
  | .committed _ root' catalog => if root' = root then some catalog else none
  | _ => none

def catalogAfter (root : JsString) (log : List Entry) : JsString :=
  log.foldl (fun catalog e => (e.leaves root).getD catalog) (checkouts root).catalog

/-- What the renaming call `i` has seen and claimed. -/
structure Justified (past : List Entry) (i : Nat) (r : Rename) : Prop where
  promotion : ∃ promotion, setting.promotion r.promotionId = some promotion ∧
    r.targetPreimageDigest = promotion.targetPreimageDigest
  read : ∃ bytes, .read i r.repositoryRoot bytes ∈ past ∧
    setting.digest bytes = r.targetPreimageDigest
  claimed : .claimed i (r.transactionFile setting) ∈ past
  consumed : .consumed i r.approvalFile ∈ past

def NotRenamed (i : Nat) (log : List Entry) : Prop :=
  ∀ r replaced written, .renamed i r replaced written ∉ log

/-- What an entry may add to a log. -/
def Legal (past : List Entry) : Entry → Prop
  | .claimed _ file => ∀ j, .claimed j file ∉ past
  | .consumed _ file => ∀ j, .consumed j file ∉ past
  | .renamed i r replaced _ => replaced = catalogAfter checkouts r.repositoryRoot past ∧
      Justified setting past i r ∧ NotRenamed i past
  | .read _ root bytes => bytes = catalogAfter checkouts root past
  | .failedAfter _ | .committed _ _ _ => True

inductive Lawful : List Entry → Prop
  | nil : Lawful []
  | snoc {past : List Entry} {e : Entry} (hpast : Lawful past)
      (hlegal : Legal setting checkouts past e) : Lawful (past ++ [e])

def Entry.renameOf : Entry → Option Rename
  | .renamed _ r _ _ => some r
  | _ => none

def renames (log : List Entry) : List Rename := log.filterMap Entry.renameOf

def Rename.transaction (r : Rename) : JsString × JsString × JsString :=
  (r.repositoryRoot, r.headSha, r.targetPreimageDigest)

/-- No approval and no transaction has a second rename. -/
structure Exclusive (log : List Entry) : Prop where
  perApproval : ((renames log).map Rename.approvalId).Nodup
  perTransaction : ((renames log).map Rename.transaction).Nodup

/-- Every rename replaces the preimage of its promotion, which its own call has read. -/
def ReplacesPreimage (log : List Entry) : Prop :=
  ∀ before i r replaced written after,
    log = before ++ .renamed i r replaced written :: after →
      (∃ promotion, setting.promotion r.promotionId = some promotion ∧
        setting.digest replaced = promotion.targetPreimageDigest) ∧
      .read i r.repositoryRoot replaced ∈ before

/-- Between a read of the catalog and the rename of the same call, nobody else writes the
catalog. -/
def Undisturbed (log : List Entry) : Prop :=
  ∀ before i root bytes between r replaced written after,
    log = before ++ .read i root bytes :: (between ++ .renamed i r replaced written :: after) →
      ∀ e ∈ between, e.leaves root = none

end Logs

section Lawful

variable {setting : Setting} {checkouts : JsString → Checkout} {log past rest : List Entry}
  {i j : Nat} {r : Rename}

theorem catalogAfter_concat (root : JsString) (log : List Entry) (e : Entry) :
    catalogAfter checkouts root (log ++ [e]) =
      (e.leaves root).getD (catalogAfter checkouts root log) := by
  simp [catalogAfter, List.foldl_append]

theorem catalogAfter_append_of_leaves_none {root : JsString}
    (h : ∀ e ∈ rest, e.leaves root = none) :
    catalogAfter checkouts root (log ++ rest) = catalogAfter checkouts root log := by
  induction rest generalizing log with
  | nil => rw [List.append_nil]
  | cons e rest ih =>
      rw [List.append_cons, ih fun e' he' => h e' (List.mem_cons_of_mem e he'),
        catalogAfter_concat, h e List.mem_cons_self]
      rfl

theorem Justified.mono (h : Justified setting log i r) (hsub : log ⊆ past) :
    Justified setting past i r := by
  obtain ⟨hpromotion, ⟨bytes, hread, hdigest⟩, hclaimed, hconsumed⟩ := h
  exact ⟨hpromotion, ⟨bytes, hsub hread, hdigest⟩, hsub hclaimed, hsub hconsumed⟩

section

variable (h : Lawful setting checkouts log)

include h

theorem Lawful.legal {e : Entry}
    (hlog : log = past ++ e :: rest) : Legal setting checkouts past e := by
  induction h generalizing rest with
  | nil => simp at hlog
  | @snoc before last hbefore hlegal ih =>
      rcases List.eq_nil_or_concat rest with rfl | ⟨rest, last', rfl⟩
      · obtain ⟨rfl, hlast⟩ := List.append_inj' hlog rfl
        obtain rfl := List.singleton_inj.mp hlast
        exact hlegal
      · rw [List.concat_eq_append, ← List.cons_append, ← List.append_assoc] at hlog
        exact ih (List.append_inj' hlog rfl).1

theorem Lawful.justified {replaced written : JsString}
    (hmem : .renamed i r replaced written ∈ log) : Justified setting log i r := by
  obtain ⟨past, rest, rfl⟩ := List.append_of_mem hmem
  exact (h.legal rfl).2.1.mono (List.subset_append_left _ _)

theorem Lawful.once (mark : Nat → Entry) (hmark : ∀ {i j}, mark i = mark j → i = j)
    (hfresh : ∀ {past i}, Legal setting checkouts past (mark i) → ∀ j, mark j ∉ past)
    (hi : mark i ∈ log) (hj : mark j ∈ log) : i = j := by
  induction h with
  | nil => exact absurd hi List.not_mem_nil
  | @snoc past last hpast hlegal ih =>
      rcases List.mem_append.mp hi with hpi | hli
      · rcases List.mem_append.mp hj with hpj | hlj
        · exact ih hpi hpj
        · obtain rfl := List.mem_singleton.mp hlj
          exact absurd hpi (hfresh hlegal i)
      · obtain rfl := List.mem_singleton.mp hli
        rcases List.mem_append.mp hj with hpj | hlj
        · exact absurd hpj (hfresh hlegal j)
        · exact (hmark (List.mem_singleton.mp hlj)).symm

theorem Lawful.claimed_once {file : JsString}
    (hi : .claimed i file ∈ log) (hj : .claimed j file ∈ log) : i = j :=
  h.once (fun k => .claimed k file) (fun heq => (Entry.claimed.inj heq).1) id hi hj

theorem Lawful.consumed_once {file : JsString}
    (hi : .consumed i file ∈ log) (hj : .consumed j file ∈ log) : i = j :=
  h.once (fun k => .consumed k file) (fun heq => (Entry.consumed.inj heq).1) id hi hj

end

theorem mem_renames : r ∈ renames log ↔ ∃ i replaced written,
    .renamed i r replaced written ∈ log := by
  simp only [renames, List.mem_filterMap]
  constructor
  · rintro ⟨e, hmem, he⟩
    cases e with
    | renamed i r' replaced written =>
        obtain rfl := Option.some.inj he
        exact ⟨i, replaced, written, hmem⟩
    | _ => contradiction
  · rintro ⟨i, replaced, written, hmem⟩
    exact ⟨_, hmem, rfl⟩

theorem Lawful.renames_nodup {κ : Type} {key : Rename → κ} (h : Lawful setting checkouts log)
    (hkey : ∀ {past i j r r'}, Lawful setting checkouts past → Justified setting past i r →
      Justified setting past j r' → key r = key r' → i = j) : ((renames log).map key).Nodup := by
  induction h with
  | nil => exact List.nodup_nil
  | @snoc past last hpast hlegal ih =>
      cases last with
      | renamed i r replaced written =>
          obtain ⟨-, hjustified, hfirst⟩ := hlegal
          simp only [renames, List.filterMap_append, List.map_append]
          refine List.nodup_append'.mpr ⟨ih, List.nodup_singleton _, ?_⟩
          intro k hk hlast
          obtain rfl := List.mem_singleton.mp hlast
          obtain ⟨r', hr', heq⟩ := List.mem_map.mp hk
          obtain ⟨j, replaced', written', hmem⟩ := mem_renames.mp hr'
          obtain rfl := hkey hpast hjustified (hpast.justified hmem) heq.symm
          exact hfirst r' replaced' written' hmem
      | _ =>
          simp only [renames, List.filterMap_append]
          rw [show List.filterMap Entry.renameOf [_] = [] from rfl, List.append_nil]
          exact ih

theorem Lawful.exclusive (h : Lawful setting checkouts log) : Exclusive log := by
  constructor
  · apply h.renames_nodup
    intro past i j r r' hpast hi hj hkey
    have hconsumed := hj.consumed
    rw [Rename.approvalFile, ← hkey] at hconsumed
    exact hpast.consumed_once hi.consumed hconsumed
  · apply h.renames_nodup
    intro past i j r r' hpast hi hj hkey
    obtain ⟨hroot, hrest⟩ := Prod.mk.inj hkey
    obtain ⟨hhead, hpreimage⟩ := Prod.mk.inj hrest
    have hclaimed := hj.claimed
    rw [Rename.transactionFile, ← hroot, ← hhead, ← hpreimage] at hclaimed
    exact hpast.claimed_once hi.claimed hclaimed

theorem Lawful.replacesPreimage (h : Lawful setting checkouts log) (hquiet : Undisturbed log) :
    ReplacesPreimage setting log := by
  intro before i r replaced written after hlog
  obtain ⟨hreplaced, hjustified, -⟩ := h.legal hlog
  obtain ⟨promotion, hpromotion, hpreimage⟩ := hjustified.promotion
  obtain ⟨bytes, hread, hdigest⟩ := hjustified.read
  obtain ⟨earlier, between, rfl⟩ := List.append_of_mem hread
  have hbytes : bytes = catalogAfter checkouts r.repositoryRoot earlier := by
    rw [List.append_assoc] at hlog
    exact h.legal hlog
  have hsame : replaced = bytes := by
    have hnone := hquiet earlier i r.repositoryRoot bytes between r replaced written after
      (by rw [hlog, List.append_assoc, List.cons_append])
    rw [hreplaced, hbytes]
    apply catalogAfter_append_of_leaves_none
    intro e he
    rcases List.mem_cons.mp he with rfl | he
    · rfl
    · exact hnone e he
  subst hsame
  exact ⟨⟨promotion, hpromotion, hdigest.trans hpreimage⟩, hread⟩

end Lawful

/-! ### One call -/

section Agreement

variable (setting : Setting) (checkouts : JsString → Checkout)

/-- The log tells how the checkouts and the stores came to be. -/
structure Inv (w : World) : Prop where
  lawful : Lawful setting checkouts w.log
  catalog : ∀ root, (w.checkouts root).catalog = catalogAfter checkouts root w.log
  transactions : ∀ {i file}, .claimed i file ∈ w.log → file ∈ w.transactions
  consumptions : ∀ {i file}, .consumed i file ∈ w.log → file ∈ w.consumptions

/-- The log has grown by entries of such threads. -/
structure Extends (own : Nat → Prop) (w w' : World) : Prop where
  inv : Inv setting checkouts w → Inv setting checkouts w'
  grown : ∃ more, w'.log = w.log ++ more ∧ ∀ e ∈ more, own e.thread

variable {setting checkouts} {own : Nat → Prop} {w v w' : World}

theorem Extends.refl (own : Nat → Prop) (w : World) : Extends setting checkouts own w w :=
  ⟨id, [], (List.append_nil _).symm, by simp⟩

theorem Extends.trans (h : Extends setting checkouts own w v)
    (h' : Extends setting checkouts own v w') : Extends setting checkouts own w w' := by
  obtain ⟨more, hlog, hby⟩ := h.grown
  obtain ⟨more', hlog', hby'⟩ := h'.grown
  refine ⟨fun hinv => h'.inv (h.inv hinv), more ++ more', ?_, ?_⟩
  · rw [hlog', hlog, List.append_assoc]
  · intro e he
    rcases List.mem_append.mp he with he | he
    · exact hby e he
    · exact hby' e he

theorem Extends.imp {own' : Nat → Prop} (h : Extends setting checkouts own w w')
    (himp : ∀ i, own i → own' i) : Extends setting checkouts own' w w' := by
  obtain ⟨more, hlog, hby⟩ := h.grown
  exact ⟨h.inv, more, hlog, fun e he => himp _ (hby e he)⟩

theorem Extends.subset (h : Extends setting checkouts own w w') : w.log ⊆ w'.log := by
  obtain ⟨more, hlog, -⟩ := h.grown
  rw [hlog]
  exact List.subset_append_left _ _

theorem Extends.notRenamed {i : Nat} (h : Extends setting checkouts own w w') (hby : ¬own i)
    (hw : NotRenamed i w.log) : NotRenamed i w'.log := by
  obtain ⟨more, hlog, hmore⟩ := h.grown
  intro r replaced written hmem
  rw [hlog] at hmem
  rcases List.mem_append.mp hmem with hmem | hmem
  · exact hw r replaced written hmem
  · exact hby (hmore _ hmem)

variable (setting checkouts) in
def agreement : Agreement World where
  Inv := Inv setting checkouts
  rely i := Extends setting checkouts (· ≠ i)
  guarantee i := Extends setting checkouts (· = i)
  refl i w := Extends.refl _ w
  trans := Extends.trans
  compatible := by
    intro i j s s' hij h
    exact h.imp fun k hk => hk ▸ hij
  inv_rely hinv h := h.inv hinv
  inv_guarantee hinv h := h.inv hinv

variable {e : Entry}

theorem Inv.append (h : Inv setting checkouts w) (hlog : v.log = w.log)
    (hlegal : Legal setting checkouts w.log e) (hcatalog : ∀ root, (v.checkouts root).catalog =
      (e.leaves root).getD (w.checkouts root).catalog)
    (htransactions : w.transactions ⊆ v.transactions ∧
      ∀ i file, e = .claimed i file → file ∈ v.transactions)
    (hconsumptions : w.consumptions ⊆ v.consumptions ∧
      ∀ i file, e = .consumed i file → file ∈ v.consumptions) :
    Inv setting checkouts (v.append e) := by
  constructor
  · rw [World.append, hlog]
    exact h.lawful.snoc hlegal
  · intro root
    rw [World.append, hlog, catalogAfter_concat, ← h.catalog]
    exact hcatalog root
  · intro i file hmem
    rw [World.append, hlog] at hmem
    rcases List.mem_append.mp hmem with hold | hnew
    · exact htransactions.1 (h.transactions hold)
    · exact htransactions.2 i file (List.mem_singleton.mp hnew).symm
  · intro i file hmem
    rw [World.append, hlog] at hmem
    rcases List.mem_append.mp hmem with hold | hnew
    · exact hconsumptions.1 (h.consumptions hold)
    · exact hconsumptions.2 i file (List.mem_singleton.mp hnew).symm

theorem Inv.append_note (h : Inv setting checkouts w)
    (hlegal : Legal setting checkouts w.log e) (hleaves : ∀ root, e.leaves root = none)
    (hclaimed : ∀ i file, e ≠ .claimed i file) (hconsumed : ∀ i file, e ≠ .consumed i file) :
    Inv setting checkouts (w.append e) := by
  apply h.append rfl hlegal
  · intro root
    rw [hleaves]
    rfl
  · exact ⟨List.Subset.refl _, fun i file heq => absurd heq (hclaimed i file)⟩
  · exact ⟨List.Subset.refl _, fun i file heq => absurd heq (hconsumed i file)⟩

theorem extends_append (hlog : v.log = w.log)
    (hinv : Inv setting checkouts (v.append e)) (hby : own e.thread) :
    Extends setting checkouts own w (v.append e) :=
  ⟨fun _ => hinv, [e], by rw [World.append, hlog], by simpa using hby⟩

theorem catalog_setCheckout (w : World) (root : JsString) (checkout : Checkout)
    (root' : JsString) : ((w.setCheckout root checkout).checkouts root').catalog =
      (if root = root' then some checkout.catalog else none).getD
        (w.checkouts root').catalog := by
  by_cases hroot : root = root'
  · subst hroot
    simp [World.setCheckout]
  · simp [World.setCheckout, hroot, Function.update_of_ne (Ne.symm hroot)]

/-- What a call must have seen before it. -/
def Ready (setting : Setting) (i : Nat) : Op → World → Prop
  | .renameTarget r _, w => Justified setting w.log i r ∧ NotRenamed i w.log
  | _, _ => True

theorem extends_of_perform {i : Nat} {op : Op} {reply : op.Reply}
    (hinv : Inv setting checkouts w) (hready : Ready setting i op w)
    (h : Perform setting i op w reply w') : Extends setting checkouts (· = i) w w' := by
  cases h
  case read root =>
    refine extends_append rfl (hinv.append_note (hinv.catalog root) ?_ ?_ ?_) rfl
    · exact fun _ => rfl
    · exact fun _ _ => Entry.noConfusion
    · exact fun _ _ => Entry.noConfusion
  case claimed file reply hreply hfree =>
    refine extends_append rfl (hinv.append rfl ?_ ?_ ?_ ?_) rfl
    · exact fun j hmem => hfree (hinv.transactions hmem)
    · exact fun _ => rfl
    · refine ⟨List.subset_cons_self _ _, ?_⟩
      intro j file' heq
      rw [← (Entry.claimed.inj heq).2]
      exact List.mem_cons_self
    · exact ⟨List.Subset.refl _, fun _ _ heq => Entry.noConfusion heq⟩
  case consumed file reply hreply hfree =>
    refine extends_append rfl (hinv.append rfl ?_ ?_ ?_ ?_) rfl
    · exact fun j hmem => hfree (hinv.consumptions hmem)
    · exact fun _ => rfl
    · exact ⟨List.Subset.refl _, fun _ _ heq => Entry.noConfusion heq⟩
    · refine ⟨List.subset_cons_self _ _, ?_⟩
      intro j file' heq
      rw [← (Entry.consumed.inj heq).2]
      exact List.mem_cons_self
  case renamed r bytes =>
    refine extends_append rfl (hinv.append rfl ⟨hinv.catalog _, hready⟩ ?_ ?_ ?_) rfl
    · exact catalog_setCheckout w r.repositoryRoot _
    · exact ⟨List.Subset.refl _, fun _ _ heq => Entry.noConfusion heq⟩
    · exact ⟨List.Subset.refl _, fun _ _ heq => Entry.noConfusion heq⟩
  case ownerCommit root head catalog =>
    refine extends_append rfl (hinv.append rfl trivial ?_ ?_ ?_) rfl
    · exact catalog_setCheckout w root _
    · exact ⟨List.Subset.refl _, fun _ _ heq => Entry.noConfusion heq⟩
    · exact ⟨List.Subset.refl _, fun _ _ heq => Entry.noConfusion heq⟩
  case readBackThrew | statusThrew | notValidated =>
    refine extends_append rfl (hinv.append_note trivial ?_ ?_ ?_) rfl
    · exact fun _ => rfl
    · exact fun _ _ => Entry.noConfusion
    · exact fun _ _ => Entry.noConfusion
  all_goals exact Extends.refl _ w

end Agreement

section Rules

variable (setting : Setting) (checkouts : JsString → Checkout) (i : Nat)

/-- Neither the others nor a call of the thread that is not the rename make it false. -/
structure Steady (P : World → Prop) : Prop where
  stable : Stable (agreement setting checkouts) i P
  kept : ∀ {op : Op} {reply : op.Reply} {w w' : World}, (∀ r bytes, op ≠ .renameTarget r bytes) →
    Inv setting checkouts w → Perform setting i op w reply w' → P w → P w'

variable {setting checkouts i} {P K : World → Prop} {op : Op}

theorem ready_of_ne {w : World} (hop : ∀ r bytes, op ≠ .renameTarget r bytes) :
    Ready setting i op w := by
  cases op with
  | renameTarget r bytes => exact absurd rfl (hop r bytes)
  | _ => trivial

theorem steady_of_mono {F : List Entry → Prop}
    (hmono : ∀ {past log : List Entry}, past ⊆ log → F past → F log) :
    Steady setting checkouts i (fun w => F w.log) := by
  constructor
  · intro w w' _ hrely hw
    exact hmono hrely.subset hw
  · intro op reply w w' hop hinv hperform hw
    exact hmono (extends_of_perform hinv (ready_of_ne hop) hperform).subset hw

theorem steady_logged (e : Entry) : Steady setting checkouts i (fun w => e ∈ w.log) :=
  steady_of_mono (F := fun log => e ∈ log) fun hsub he => hsub he

theorem steady_justified (r : Rename) :
    Steady setting checkouts i (fun w => Justified setting w.log i r) :=
  steady_of_mono (F := fun log => Justified setting log i r) fun hsub h => h.mono hsub

theorem steady_notRenamed : Steady setting checkouts i (fun w => NotRenamed i w.log) := by
  constructor
  · intro w w' _ hrely hw
    exact hrely.notRenamed (fun h => h rfl) hw
  · intro op reply w w' hop _ hperform hw r replaced written hmem
    cases hperform
    case renamed r bytes => exact hop r bytes rfl
    all_goals first
      | exact hw r replaced written hmem
      | rcases List.mem_append.mp hmem with hold | hnew
        · exact hw r replaced written hold
        · exact Entry.noConfusion (List.mem_singleton.mp hnew)

theorem steady_fact (φ : Prop) : Steady setting checkouts i (fun _ => φ) :=
  ⟨fun _ _ h => h, fun _ _ _ h => h⟩

section

variable (hP : Steady setting checkouts i P)

include hP

theorem Steady.and (hK : Steady setting checkouts i K) :
    Steady setting checkouts i (fun w => P w ∧ K w) := by
  constructor
  · rintro w w' hinv hrely ⟨hp, hk⟩
    exact ⟨hP.stable hinv hrely hp, hK.stable hinv hrely hk⟩
  · rintro op reply w w' hop hinv hperform ⟨hp, hk⟩
    exact ⟨hP.kept hop hinv hperform hp, hK.kept hop hinv hperform hk⟩

theorem Steady.imp {φ : Prop} : Steady setting checkouts i (fun w => φ → P w) := by
  constructor
  · intro w w' hinv hrely hp hφ
    exact hP.stable hinv hrely (hp hφ)
  · intro op reply w w' hop hinv hperform hp hφ
    exact hP.kept hop hinv hperform (hp hφ)

theorem act_learns (learned : op.Reply → World → Prop) (hop : ∀ r bytes, op ≠ .renameTarget r bytes)
    (hlearned : ∀ reply, Steady setting checkouts i (learned reply))
    (hlearns : ∀ {w reply w'}, Perform setting i op w reply w' → learned reply w') :
    Triple (agreement setting checkouts) i P (act setting op)
      (fun reply w => P w ∧ learned reply w) := by
  apply Triple.act hP.stable
  · intro reply
    exact (hP.and (hlearned reply)).stable
  · intro w reply w' hinv hp hperform
    refine ⟨extends_of_perform hinv (ready_of_ne hop) hperform, ?_, ?_⟩
    · exact hP.kept hop hinv hperform hp
    · exact hlearns hperform

theorem act_quiet (hop : ∀ r bytes, op ≠ .renameTarget r bytes) :
    Triple (agreement setting checkouts) i P (act setting op) (fun _ w => P w) := by
  refine (act_learns hP (fun _ _ => True) hop (fun _ => steady_fact True) ?_).imp ?_ ?_
  · exact fun _ => trivial
  · exact fun _ _ h => h
  · exact fun _ _ _ h => h.1

end

/-- A call that throws without the mark of a write has not renamed, or was cut short after
the rename. -/
def Told (i : Nat) (outcome : Outcome) (w : World) : Prop :=
  ∀ code writes, outcome = .threw code writes → writes ≠ some 1 →
    NotRenamed i w.log ∨ .failedAfter i ∈ w.log

theorem stable_told (outcome : Outcome) :
    Stable (agreement setting checkouts) i (Told i outcome) := by
  intro w w' hinv hrely htold code writes hthrew hwrites
  rcases htold code writes hthrew hwrites with hnot | hfailed
  · exact .inl (steady_notRenamed.stable hinv hrely hnot)
  · exact .inr ((steady_logged _).stable hinv hrely hfailed)

variable {outcome : Outcome}

theorem done_told (h : ∀ w, P w → Told i outcome w) :
    Triple (agreement setting checkouts) i P (.done outcome : Program (effects setting) Outcome)
      (Told i) :=
  Triple.done (stable_told outcome) fun w _ hp => h w hp

theorem told_notRenamed {w : World} (h : NotRenamed i w.log) : Told i outcome w :=
  fun _ _ _ _ => .inl h

theorem act_logs {op : Op} (hP : Steady setting checkouts i P) (result : op.Reply) (entry : Entry)
    (hop : ∀ r bytes, op ≠ .renameTarget r bytes)
    (hlogs : ∀ {w w'}, Perform setting i op w result w' → entry ∈ w'.log) :
    Triple (agreement setting checkouts) i P (act setting op)
      (fun reply w => P w ∧ (reply = result → entry ∈ w.log)) := by
  apply act_learns hP (fun reply w => reply = result → entry ∈ w.log) hop
  · exact fun _ => (steady_logged _).imp
  · rintro w _ w' hperform rfl
    exact hlogs hperform

theorem act_claims (hP : Steady setting checkouts i P) (file : JsString) :
    Triple (agreement setting checkouts) i P (act setting (.claimApplyTransaction file))
      (fun reply w => P w ∧ (reply = ClaimReply.created → .claimed i file ∈ w.log)) := by
  refine act_logs hP (show (Op.claimApplyTransaction file).Reply from .created) (.claimed i file)
    (by simp) ?_
  intro w w' hperform
  cases hperform
  exact List.mem_append_right _ (List.mem_singleton_self _)

theorem act_consumes (hP : Steady setting checkouts i P) (file : JsString) :
    Triple (agreement setting checkouts) i P (act setting (.claimApprovalConsumption file))
      (fun reply w => P w ∧ (reply = ClaimReply.created → .consumed i file ∈ w.log)) := by
  refine act_logs hP (show (Op.claimApprovalConsumption file).Reply from .created) (.consumed i file)
    (by simp) ?_
  intro w w' hperform
  cases hperform
  exact List.mem_append_right _ (List.mem_singleton_self _)

theorem act_noted {op : Op} (failure : op.Reply) (hop : ∀ r bytes, op ≠ .renameTarget r bytes)
    (hnoted : ∀ {w w'}, Perform setting i op w failure w' → .failedAfter i ∈ w'.log) :
    Triple (agreement setting checkouts) i (fun _ => True) (act setting op)
      (fun reply w => reply = failure → .failedAfter i ∈ w.log) :=
  (act_logs (steady_fact True) failure _ hop hnoted).imp (fun _ _ h => h) fun _ _ _ h => h.2

theorem told_of_true {p : Program (effects setting) Outcome}
    (h : Triple (agreement setting checkouts) i (fun _ => True) p (Told i)) :
    Triple (agreement setting checkouts) i P p (Told i) :=
  h.imp (fun _ _ _ => trivial) fun _ _ _ htold => htold

theorem done_noted : Triple (agreement setting checkouts) i (fun w => .failedAfter i ∈ w.log)
      (.done outcome : Program (effects setting) Outcome) (Told i) :=
  done_told fun _ hnoted _ _ _ _ => .inr hnoted

theorem done_notRenamed : Triple (agreement setting checkouts) i (fun w => NotRenamed i w.log)
      (.done outcome : Program (effects setting) Outcome) (Told i) :=
  done_told fun _ => told_notRenamed

theorem done_marked {code : String} : Triple (agreement setting checkouts) i P
      (.done (.threw code (some 1)) : Program (effects setting) Outcome) (Told i) := by
  apply done_told
  intro w _ code' writes hthrew hwrites
  exact absurd (Outcome.threw.inj hthrew).2.symm hwrites

theorem done_returned {receipt : SelfDevCanonicalApplyReceipt} :
    Triple (agreement setting checkouts) i P
      (.done (.returned receipt) : Program (effects setting) Outcome) (Told i) :=
  done_told fun _ _ _ _ hthrew => Outcome.noConfusion hthrew

theorem act_rename (r : Rename) (bytes : JsString) : Triple (agreement setting checkouts) i
      (fun w => NotRenamed i w.log ∧ Justified setting w.log i r)
      (act setting (.renameTarget r bytes)) (fun reply w => reply = false → NotRenamed i w.log) := by
  apply Triple.act (steady_notRenamed.and (steady_justified r)).stable
  · exact fun _ => steady_notRenamed.imp.stable
  · rintro w reply w' hinv ⟨hnot, hjustified⟩ hperform
    have hready : Ready setting i (.renameTarget r bytes) w := ⟨hjustified, hnot⟩
    refine ⟨extends_of_perform hinv hready hperform, ?_⟩
    cases hperform with
    | renamed => exact Bool.noConfusion
    | renameThrew => exact fun _ => hnot

end Rules

section Call

variable {setting : Setting} {checkouts : JsString → Checkout} {i : Nat}
  {input : ApplyPromotionInput} {promotion : SelfDevCanonicalPromotionIntent}
  {approval : SelfDevCanonicalPromotionApproval} {headSha : JsString}

theorem afterRename_told : Triple (agreement setting checkouts) i (fun _ => True)
    (afterRename setting input promotion approval headSha) (Told i) := by
  unfold afterRename
  refine Triple.bind (act_noted none (by simp) ?_) ?_
  · rintro w w' ⟨⟩
    exact List.mem_append_right _ (List.mem_singleton_self _)
  rintro (_ | observedBytes)
  · exact done_noted.imp (fun _ _ h => h rfl) fun _ _ _ h => h
  refine told_of_true (Triple.bind (act_noted none (by simp) ?_) ?_)
  · rintro w w' ⟨⟩
    exact List.mem_append_right _ (List.mem_singleton_self _)
  rintro (_ | status)
  · exact done_noted.imp (fun _ _ h => h rfl) fun _ _ _ h => h
  refine told_of_true (Triple.bind (act_noted false (by simp) ?_) ?_)
  · rintro w w' ⟨⟩
    exact List.mem_append_right _ (List.mem_singleton_self _)
  rintro (_ | _)
  · exact done_noted.imp (fun _ _ h => h rfl) fun _ _ _ h => h
  refine told_of_true (Triple.bind (act_quiet (steady_fact True) (by simp)) ?_)
  rintro (_ | _)
  · exact done_marked
  · dsimp only
    split
    · exact done_returned
    · exact done_marked

section

variable (hpromotion : setting.promotion input.promotionId = some promotion)

include hpromotion

variable {bytes : JsString}

theorem claimAndWrite_told {postimageBytes : JsString}
    (hdigest : setting.digest bytes = promotion.targetPreimageDigest) :
    Triple (agreement setting checkouts) i
      (fun w => NotRenamed i w.log ∧ .read i input.repositoryRoot bytes ∈ w.log)
      (claimAndWrite setting input promotion approval headSha postimageBytes) (Told i) := by
  unfold claimAndWrite
  dsimp only
  refine Triple.bind (act_claims (steady_notRenamed.and (steady_logged _)) _) ?_
  rintro (_ | _ | _)
  case immutable => exact done_notRenamed.imp (fun _ _ h => h.1.1) fun _ _ _ h => h
  case failed => exact done_notRenamed.imp (fun _ _ h => h.1.1) fun _ _ _ h => h
  refine Triple.bind (act_consumes
    ((steady_notRenamed.and (steady_logged _)).and (steady_logged _).imp) _) ?_
  rintro (_ | _ | _)
  case immutable => exact done_notRenamed.imp (fun _ _ h => h.1.1.1) fun _ _ _ h => h
  case failed => exact done_notRenamed.imp (fun _ _ h => h.1.1.1) fun _ _ _ h => h
  refine Triple.bind (act_quiet (((steady_notRenamed.and (steady_logged _)).and
    (steady_logged _).imp).and (steady_logged _).imp) (by simp)) ?_
  rintro (_ | _)
  · exact done_notRenamed.imp (fun _ _ h => h.1.1.1) fun _ _ _ h => h
  refine Triple.bind ((act_rename _ _).imp ?_ fun _ _ _ h => h) ?_
  · rintro w _ ⟨⟨⟨hnot, hread⟩, hclaimed⟩, hconsumed⟩
    exact ⟨hnot, ⟨promotion, hpromotion, rfl⟩, ⟨bytes, hread, hdigest⟩, hclaimed rfl, hconsumed rfl⟩
  rintro (_ | _)
  · exact done_notRenamed.imp (fun _ _ h => h rfl) fun _ _ _ h => h
  · exact told_of_true afterRename_told

theorem preparePostimage_told (hdigest : setting.digest bytes = promotion.targetPreimageDigest) :
    Triple (agreement setting checkouts) i
      (fun w => NotRenamed i w.log ∧ .read i input.repositoryRoot bytes ∈ w.log)
      (preparePostimage setting input promotion approval headSha) (Told i) := by
  have hsteady : Steady setting checkouts i
      (fun w => NotRenamed i w.log ∧ .read i input.repositoryRoot bytes ∈ w.log) :=
    steady_notRenamed.and (steady_logged _)
  unfold preparePostimage
  refine Triple.bind (act_quiet hsteady (by simp)) ?_
  rintro (_ | plan)
  · exact done_notRenamed.imp (fun _ _ h => h.1) fun _ _ _ h => h
  refine Triple.bind (act_quiet hsteady (by simp)) ?_
  rintro (_ | repositoryAdoptedCases)
  · exact done_notRenamed.imp (fun _ _ h => h.1) fun _ _ _ h => h
  dsimp only
  split_ifs
  · exact done_notRenamed.imp (fun _ _ h => h.1) fun _ _ _ h => h
  · exact done_notRenamed.imp (fun _ _ h => h.1) fun _ _ _ h => h
  · exact done_notRenamed.imp (fun _ _ h => h.1) fun _ _ _ h => h
  · exact claimAndWrite_told hpromotion hdigest

theorem checkSource_told : Triple (agreement setting checkouts) i (fun w => NotRenamed i w.log)
      (checkSource setting input promotion approval) (Told i) := by
  unfold checkSource
  refine Triple.bind (act_quiet steady_notRenamed (by simp)) ?_
  rintro (_ | _ | _)
  case none => exact done_notRenamed
  case some.true => exact done_notRenamed
  refine Triple.bind (act_quiet steady_notRenamed (by simp)) ?_
  rintro (_ | _)
  · exact done_notRenamed
  refine Triple.bind (act_quiet steady_notRenamed (by simp)) ?_
  rintro (_ | current)
  · exact done_notRenamed
  dsimp only
  split_ifs
  · exact done_notRenamed
  refine Triple.bind (act_quiet steady_notRenamed (by simp)) ?_
  rintro (_ | _)
  · exact done_notRenamed
  refine Triple.bind (act_learns steady_notRenamed
    (fun reply w => ∀ bytes, reply = some bytes → .read i input.repositoryRoot bytes ∈ w.log)
    (by simp) ?_ ?_) ?_
  · intro reply
    exact steady_of_mono (F := fun log => ∀ bytes, reply = some bytes →
      .read i input.repositoryRoot bytes ∈ log) fun hsub h bytes heq => hsub (h bytes heq)
  · rintro w _ w' hperform bytes rfl
    cases hperform
    exact List.mem_append_right _ (List.mem_singleton_self _)
  rintro (_ | currentBytes)
  · exact done_notRenamed.imp (fun _ _ h => h.1) fun _ _ _ h => h
  dsimp only
  split_ifs with hpreimage
  · exact done_notRenamed.imp (fun _ _ h => h.1) fun _ _ _ h => h
  · refine (preparePostimage_told hpromotion (not_not.mp hpreimage)).imp ?_ fun _ _ _ h => h
    exact fun w _ h => ⟨h.1, h.2 currentBytes rfl⟩

end

theorem promotion_of_perform {id : JsString} {w w' : World}
    {reply : Option SelfDevCanonicalPromotionIntent}
    (h : Perform setting i (.readPromotion id) w reply w') :
    reply = none ∨ reply = setting.promotion id := by
  cases h with
  | promotion => exact .inr rfl
  | promotionThrew => exact .inl rfl

theorem applyPromotion_told : Triple (agreement setting checkouts) i (fun w => NotRenamed i w.log)
      (applyPromotion setting input) (Told i) := by
  unfold applyPromotion
  split_ifs
  · exact done_notRenamed
  refine Triple.bind (act_learns steady_notRenamed
    (fun reply _ => ∀ promotion, reply = some promotion →
      setting.promotion input.promotionId = some promotion) (by simp)
    (fun _ => steady_fact _) ?_) ?_
  · intro w reply w' hperform promotion hreply
    rcases promotion_of_perform hperform with hnone | hsome
    · rw [hnone] at hreply
      contradiction
    · exact hsome.symm.trans hreply
  rintro (_ | promotion)
  · exact done_notRenamed.imp (fun _ _ h => h.1) fun _ _ _ h => h
  refine Triple.bind (act_quiet (steady_notRenamed.and (steady_fact _)) (by simp)) ?_
  rintro (_ | approval)
  · exact done_notRenamed.imp (fun _ _ h => h.1) fun _ _ _ h => h
  dsimp only
  split_ifs
  · exact done_notRenamed.imp (fun _ _ h => h.1) fun _ _ _ h => h
  · intro w hinv hw
    exact checkSource_told (hw.2 promotion rfl) w hinv hw.1

theorem program_told (call : Call) :
    Triple (agreement setting checkouts) i (fun w => NotRenamed i w.log) (call.program setting)
      (Told i) := by
  cases call with
  | apply input => exact applyPromotion_told
  | ownerCommit root head catalog =>
      refine Triple.bind (act_quiet steady_notRenamed (by simp)) ?_
      exact fun _ => done_notRenamed

end Call

/-! ### Every interleaving -/

section Interleavings

variable (setting : Setting) (checkouts : JsString → Checkout)

def contract : FreshContract (agreement setting checkouts) (Call.program setting) where
  Fresh i w := NotRenamed i w.log
  others := by
    intro i j w w' hij hown hfresh
    exact hown.notRenamed (fun h => hij h.symm) hfresh
  Q _ i outcome w := Told i outcome w
  triple call _ := program_told call

/-- A call that throws without the mark of a write has not renamed. -/
def Truthful (s : Pool (effects setting) Outcome Call) : Prop :=
  ∀ (i : Nat) (call : Call) (code : String) (writes : Option Nat),
    s.threads[i]? = some (call, some (.done (.threw code writes))) → writes ≠ some 1 →
      NotRenamed i s.shared.log

/-- No call throws between its rename and the writing of its receipt. -/
def Completes (log : List Entry) : Prop := ∀ i, .failedAfter i ∉ log

theorem inv_start (transactions consumptions : List JsString) :
    Inv setting checkouts ⟨checkouts, transactions, consumptions, []⟩ :=
  ⟨.nil, fun _ => rfl, fun h => absurd h List.not_mem_nil, fun h => absurd h List.not_mem_nil⟩

variable {setting checkouts}

/-- Whatever is interleaved, the catalog is renamed once for an approval and once for a
transaction. The renames replace what they should where nobody writes the catalog behind the
back of a call, and the errors are true where no call throws right after its rename. -/
theorem promotion_writes_guarded {transactions consumptions : List JsString}
    {history : List (Event Call)} {s : Pool (effects setting) Outcome Call}
    (hrun : Run (system (Call.program setting)
      (⟨checkouts, transactions, consumptions, []⟩ : World)) history s) : Exclusive s.shared.log ∧
      (Undisturbed s.shared.log → ReplacesPreimage setting s.shared.log) ∧
      (Completes s.shared.log → Truthful setting s) := by
  have hstart := inv_start setting checkouts transactions consumptions
  have hfresh : ∀ i, (contract setting checkouts).Fresh i
      ⟨checkouts, transactions, consumptions, []⟩ := fun i _ _ _ => List.not_mem_nil
  have hkept := (contract setting checkouts).kept_of_run hstart hfresh hrun
  refine ⟨hkept.inv.lawful.exclusive, hkept.inv.lawful.replacesPreimage, ?_⟩
  intro hcompletes i call code writes hdone hwrites
  have htold := (contract setting checkouts).result_of_run hstart hfresh hrun hdone
  rcases htold code writes rfl hwrites with hnot | hfailed
  · exact hnot
  · exact absurd hfailed (hcompletes i)

end Interleavings

def sampleCase : SelfDevAdoptedCase := ⟨"case".toList, "print".toList, "source".toList⟩

def samplePromotion : SelfDevCanonicalPromotionIntent where
  promotionId := "promotion".toList
  adoptionPlanId := "plan".toList
  preparedAgainstHeadSha := "1".toList
  sourceBundleDigestBefore := "source".toList
  contractDigestBefore := "contract".toList
  targetPath := adoptedCatalogTargetPath
  targetPreimageDigest := "sha256:A".toList
  targetPostimageDigest := "sha256:AB".toList

def sampleSetting : Setting where
  ownerPolicyAllows := true
  sha256Hex := id
  promotion _ := some samplePromotion
  approval _ := some ⟨"approval".toList, "promotion".toList, "1".toList, "sha256:AB".toList⟩
  plan _ := some ⟨adoptedCatalogTargetPath, sampleCase⟩
  adoptedCases _ := some []
  renderAdoptedCatalogSource _ := "AB".toList

/-- Every call succeeds, but the reading back after the rename where it `fails`. -/
def sampleAnswer (fails : Bool) (i : Nat) : (op : Op) → World → op.Reply × World
  | .readPromotion id, w => (sampleSetting.promotion id, w)
  | .readApproval id, w => (sampleSetting.approval id, w)
  | .isApprovalConsumed id, w => (some (safeFileName id "consumed" ∈ w.consumptions), w)
  | .assertRepositoryFullyClean root, w =>
      (decide ((w.checkouts root).catalog = (w.checkouts root).committedCatalog), w)
  | .currentCheckoutState root, w =>
      (some ⟨(w.checkouts root).head, "source".toList, "contract".toList⟩, w)
  | .assertTargetSafe, w => (true, w)
  | .readTarget root, w =>
      (some (w.checkouts root).catalog, w.append (.read i root (w.checkouts root).catalog))
  | .readPlan id, w => (sampleSetting.plan id, w)
  | .loadRepositoryAdoptedCases root, w =>
      (sampleSetting.adoptedCases (w.checkouts root).catalog, w)
  | .claimApplyTransaction file, w =>
      if file ∈ w.transactions then (.immutable, w)
      else (.created, { w with transactions := file :: w.transactions }.append (.claimed i file))
  | .claimApprovalConsumption file, w =>
      if file ∈ w.consumptions then (.immutable, w)
      else (.created, { w with consumptions := file :: w.consumptions }.append (.consumed i file))
  | .writeTemporary _, w => (true, w)
  | .renameTarget r bytes, w =>
      (true, (w.setCheckout r.repositoryRoot
          { w.checkouts r.repositoryRoot with catalog := bytes }).append
        (.renamed i r (w.checkouts r.repositoryRoot).catalog bytes))
  | .readBack root, w =>
      if fails then (none, w.append (.failedAfter i))
      else (some (w.checkouts root).catalog, w)
  | .readWorkingTreeStatus, w => (some ⟨[], [], [adoptedCatalogTargetPath]⟩, w)
  | .validateReceipt _, w => (true, w)
  | .writeReceipt _, w => (true, w)
  | .ownerCommit root head catalog, w =>
      ((), (w.setCheckout root ⟨head, catalog, catalog⟩).append (.committed i root catalog))

theorem perform_sampleAnswer (fails : Bool) (i : Nat) (op : Op) (w : World) :
    Perform sampleSetting i op w (sampleAnswer fails i op w).1 (sampleAnswer fails i op w).2 := by
  cases op with
  | assertRepositoryFullyClean root =>
      by_cases hclean : (w.checkouts root).catalog = (w.checkouts root).committedCatalog
      · simpa [sampleAnswer, hclean] using Perform.clean hclean
      · simpa [sampleAnswer, hclean] using Perform.notClean root w
  | claimApplyTransaction file =>
      by_cases htaken : file ∈ w.transactions
      · simpa [sampleAnswer, htaken] using Perform.claimTaken htaken
      · simpa [sampleAnswer, htaken] using Perform.claimed htaken (.inl rfl)
  | claimApprovalConsumption file =>
      by_cases htaken : file ∈ w.consumptions
      · simpa [sampleAnswer, htaken] using Perform.consumptionTaken htaken
      · simpa [sampleAnswer, htaken] using Perform.consumed htaken (.inl rfl)
  | readBack root =>
      cases fails with
      | true => exact .readBackThrew root w
      | false => exact .readBack root w
  | readPromotion id => exact .promotion id w
  | readApproval id => exact .approval id w
  | isApprovalConsumed id => exact .isConsumed id w
  | currentCheckoutState root => exact .checkout root w _ _
  | assertTargetSafe => exact .target true w
  | readTarget root => exact .read root w
  | readPlan id => exact .plan id w
  | loadRepositoryAdoptedCases root => exact .loaded root w
  | writeTemporary bytes => exact .temporary true bytes w
  | renameTarget r bytes => exact .renamed r bytes w
  | readWorkingTreeStatus => exact .status _ w
  | validateReceipt receipt => exact .validated receipt w
  | writeReceipt receipt => exact .receipt true receipt w
  | ownerCommit root head catalog => exact .ownerCommit root head catalog w

def sampleWorld : World :=
  ⟨fun _ => ⟨"1".toList, "A".toList, "A".toList⟩, [], [], []⟩

def sampleInput : ApplyPromotionInput :=
  ⟨"promotion".toList, "approval".toList, "/repository".toList⟩

def samplePool (fails : Bool) (schedule : List (Event Call)) :
    Pool (effects sampleSetting) Outcome Call :=
  schedule.foldl (play (sampleAnswer fails) (Call.program sampleSetting)) ⟨sampleWorld, []⟩

theorem exists_run_samplePool (fails : Bool) (schedule : List (Event Call)) :
    ∃ history, Run (system (Call.program sampleSetting) sampleWorld) history
      (samplePool fails schedule) :=
  exists_run_of_play (perform_sampleAnswer fails) schedule .start

def sampleRename : Rename where
  approvalId := "approval".toList
  promotionId := "promotion".toList
  repositoryRoot := "/repository".toList
  headSha := "1".toList
  targetPreimageDigest := "sha256:A".toList

def sampleClaims : List Entry :=
  [.read 0 "/repository".toList "A".toList,
    .claimed 0 (sampleRename.transactionFile sampleSetting),
    .consumed 0 sampleRename.approvalFile]

/-- The owner commits another catalog right before the rename, and the call cannot read the
catalog back. -/
def overtaken : List (Event Call) :=
  .start (.apply sampleInput) :: List.replicate 12 (.perform 0) ++
    [.start (.ownerCommit "/repository".toList "2".toList "C".toList), .perform 1,
      .perform 0, .perform 0]

theorem overtaken_log : (samplePool true overtaken).shared.log = sampleClaims ++
    [.committed 1 "/repository".toList "C".toList,
      .renamed 0 sampleRename "C".toList "AB".toList, .failedAfter 0] := by
  decide +kernel

theorem overtaken_threw : ((samplePool true overtaken).threads[0]?.map fun thread =>
    thread.2.map fun
      | .done outcome => some outcome
      | .call _ _ => none) = some (some (some (.threw "READ_BACK" none))) := by
  decide +kernel

/-- The owner's commit is lost, and the call that overwrote it throws an error without the
mark of a write. -/
theorem promotion_overwrites_commit : ∃ history s,
    Run (system (Call.program sampleSetting) sampleWorld) history s ∧
      ¬ReplacesPreimage sampleSetting s.shared.log ∧ ¬Truthful sampleSetting s := by
  obtain ⟨history, hrun⟩ := exists_run_samplePool true overtaken
  refine ⟨history, samplePool true overtaken, hrun, ?_, ?_⟩
  · intro hreplaces
    obtain ⟨-, hread⟩ := hreplaces (sampleClaims ++ [.committed 1 "/repository".toList "C".toList])
      0 sampleRename "C".toList "AB".toList [.failedAfter 0] overtaken_log
    exact absurd hread (by decide)
  · intro htruthful
    have hthread := overtaken_threw
    rw [Option.map_eq_some_iff] at hthread
    obtain ⟨⟨call, p⟩, hthread, hp⟩ := hthread
    rw [Option.map_eq_some_iff] at hp
    obtain ⟨p, rfl, hdone⟩ := hp
    cases p with
    | call op next => contradiction
    | done outcome =>
        obtain rfl := Option.some.inj hdone
        refine htruthful 0 call "READ_BACK" none hthread (by decide) sampleRename
          "C".toList "AB".toList ?_
        rw [overtaken_log]
        decide

def applied : List (Event Call) :=
  .start (.apply sampleInput) :: List.replicate 17 (.perform 0)

theorem applied_log : (samplePool false applied).shared.log =
    sampleClaims ++ [.renamed 0 sampleRename "A".toList "AB".toList] := by
  decide +kernel

theorem undisturbed_concat {log : List Entry} {last : Entry}
    (h : ∀ e ∈ log, ∀ root, e.leaves root = none) : Undisturbed (log ++ [last]) := by
  intro before i root bytes between r replaced written after hlog e he
  have hmem : e ∈ log := by
    rcases List.eq_nil_or_concat after with rfl | ⟨rest, last', rfl⟩
    · rw [← List.cons_append, ← List.append_assoc] at hlog
      rw [(List.append_inj' hlog rfl).1]
      exact List.mem_append_right _ (List.mem_cons_of_mem _ he)
    · have hsplit : log ++ [last] = before ++ .read i root bytes ::
          (between ++ .renamed i r replaced written :: rest) ++ [last'] := by simpa using hlog
      rw [(List.append_inj' hsplit rfl).1]
      simp [he]
  exact h e hmem root

/-- A call that nobody disturbs and that comes to its end. -/
theorem promotion_writes_guarded_applied : ∃ history s,
    Run (system (Call.program sampleSetting) sampleWorld) history s ∧
      renames s.shared.log = [sampleRename] ∧ Exclusive s.shared.log ∧
      ReplacesPreimage sampleSetting s.shared.log ∧ Truthful sampleSetting s := by
  obtain ⟨history, hrun⟩ := exists_run_samplePool false applied
  obtain ⟨hexclusive, hreplaces, htruthful⟩ := promotion_writes_guarded hrun
  refine ⟨history, samplePool false applied, hrun, ?_, hexclusive, hreplaces ?_, htruthful ?_⟩
  · rw [applied_log]
    rfl
  · rw [applied_log]
    exact undisturbed_concat (by simp [sampleClaims, Entry.leaves])
  · rw [applied_log]
    intro i
    simp [sampleClaims]

end NightWatch.SelfDevPromotion.Apply
