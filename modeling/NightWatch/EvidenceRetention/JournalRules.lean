import NightWatch.EvidenceRetention.Journal

/-!
The filesystem steps of the journal under interference. A published name keeps its file
for good: each thread touches only files that it created itself, through temporary
names, before it links them.
-/

namespace NightWatch.EvidenceRetention.JournalRules

open Lib.JsText Lib.Threads EvidenceRetention.Records EvidenceRetention.Journal

def IsTemporary (name : JsString) : Prop := ∃ stamp, name = temporaryName stamp

variable {id id' : JsString} {α : Type}

theorem preparedFileName_inj (h : preparedFileName id = preparedFileName id') :
    id = id' := List.append_cancel_right h

theorem terminalFileName_inj (h : terminalFileName id = terminalFileName id') :
    id = id' := List.append_cancel_right h

theorem preparedFileName_ne_terminalFileName (id id' : JsString) :
    preparedFileName id ≠ terminalFileName id' := by
  intro h
  have hends := congrArg (fun name : JsString => name.reverse.take 6) h
  simp [preparedFileName, terminalFileName] at hends

variable {name : JsString} {file : Node} {may : Nat → Prop} {dir' : Directory}
  {K : Directory → Prop}

theorem getLast?_append_of_eq {ending : JsString} {c : Char} (h : ending.getLast? = some c) :
    (name ++ ending).getLast? = some c := by
  rw [List.getLast?_append, h, Option.some_or]

theorem getLast?_temporaryName (stamp : JsString) : (temporaryName stamp).getLast? = some 'p' :=
  getLast?_append_of_eq (by decide)

theorem not_isTemporary {name : JsString} (hlast : name.getLast? = some 'n') :
    ¬ IsTemporary name := by
  rintro ⟨stamp, rfl⟩
  rw [getLast?_temporaryName] at hlast
  exact absurd hlast (by decide)

theorem not_isTemporary_prepared (id : JsString) : ¬ IsTemporary (preparedFileName id) :=
  not_isTemporary (getLast?_append_of_eq (by decide))

theorem not_isTemporary_terminal (id : JsString) : ¬ IsTemporary (terminalFileName id) :=
  not_isTemporary (getLast?_append_of_eq (by decide))

theorem isTemporary_temporaryName (stamp : JsString) : IsTemporary (temporaryName stamp) :=
  ⟨stamp, rfl⟩

/-- A name and the file that it leads to. -/
structure Entry (dir : Directory) (name : JsString) (node : Nat) (file : Node) : Prop where
  name_eq : dir.names name = some node
  node_eq : dir.nodes[node]? = some file

theorem Entry.node {dir : Directory} {node : Nat}
    (h : Entry dir name node file) : dir.node name = some file := by
  rw [Directory.node, h.name_eq]
  exact h.node_eq

theorem Entry.content {dir : Directory} {node : Nat}
    (h : Entry dir name node file) : dir.content name = some file.bytes := by
  rw [Directory.content, h.node]
  rfl

theorem exists_entry {dir : Directory}
    (h : dir.node name = some file) : ∃ node, Entry dir name node file := by
  rw [Directory.node] at h
  obtain ⟨node, hname, hnode⟩ := Option.bind_eq_some_iff.mp h
  exact ⟨node, hname, hnode⟩

theorem exists_entry_of_content {dir : Directory} {bytes : JsString}
    (h : dir.content name = some bytes) : ∃ node file, Entry dir name node file ∧
      file.bytes = bytes := by
  obtain ⟨file, hfile, hbytes⟩ := Option.map_eq_some_iff.mp h
  obtain ⟨node, hentry⟩ := exists_entry hfile
  exact ⟨node, file, hentry, hbytes⟩

/-- The texts that the journal publishes, by name. A terminal text is made from the
prepared one of its operation. -/
inductive Published (dir : Directory) : JsString → JsString → Prop
  | prepared {intent : RetentionOperationIntent} (hid : isOperationId intent.operationId = true)
      (hcandidates : assertCandidates intent.candidates = true) :
      Published dir (preparedFileName intent.operationId)
        (recordText (preparedRecord intent).fields)
  | terminal {intent : RetentionOperationIntent} (targets : List RetentionJournalTarget)
      (hid : isOperationId intent.operationId = true)
      (hprepared : dir.content (preparedFileName intent.operationId) =
        some (recordText (preparedRecord intent).fields)) :
      Published dir (terminalFileName intent.operationId)
        (recordText (terminalRecord intent targets).fields)

structure WellFormed (dir : Directory) : Prop where
  placed : ∀ {name node}, dir.names name = some node → node < dir.nodes.length
  published : ∀ {name node file}, Entry dir name node file → ¬ IsTemporary name →
    Published dir name file.bytes

theorem wellFormed_empty : WellFormed Directory.empty where
  placed := by
    intro name node hname
    cases hname
  published := by
    intro name node file hentry
    cases hentry.name_eq

theorem WellFormed.exists_entry {dir : Directory} (h : WellFormed dir) {name : JsString}
    {node : Nat} (hname : dir.names name = some node) : ∃ file, Entry dir name node file :=
  ⟨dir.nodes.get ⟨node, h.placed hname⟩, hname, List.getElem?_eq_getElem (h.placed hname)⟩

/-- What threads that `may` name do: published names keep their files, and the files of all other
threads their names. -/
structure Change (may : Nat → Prop) (dir dir' : Directory) : Prop where
  published : ∀ {name node file}, Entry dir name node file → ¬ IsTemporary name →
    Entry dir' name node file
  others : ∀ {node file}, dir.nodes[node]? = some file → ¬ may file.owner →
    dir'.nodes[node]? = some file ∧ ∀ name, dir'.names name = some node ↔ dir.names name = some node
  wellFormed : WellFormed dir → WellFormed dir'

theorem Change.refl (may : Nat → Prop) (dir : Directory) : Change may dir dir where
  published hentry _ := hentry
  others hnode _ := ⟨hnode, fun _ => Iff.rfl⟩
  wellFormed h := h

theorem Change.trans {a b c : Directory} (hab : Change may a b)
    (hbc : Change may b c) : Change may a c where
  published hentry hname := hbc.published (hab.published hentry hname) hname
  others := by
    intro node file hnode howner
    obtain ⟨hnode', hnames⟩ := hab.others hnode howner
    obtain ⟨hnode'', hnames'⟩ := hbc.others hnode' howner
    exact ⟨hnode'', fun name => (hnames' name).trans (hnames name)⟩
  wellFormed h := hbc.wellFormed (hab.wellFormed h)

theorem Change.mono {may' : Nat → Prop} {dir : Directory} (h : Change may dir dir')
    (hmay : ∀ i, may i → may' i) : Change may' dir dir' where
  published := h.published
  others hnode howner := h.others hnode fun hi => howner (hmay _ hi)
  wellFormed := h.wellFormed

def agreement : Agreement Directory where
  Inv := WellFormed
  rely i := Change (· ≠ i)
  guarantee i := Change (· = i)
  refl i := Change.refl (· ≠ i)
  trans := Change.trans
  compatible hij h := h.mono fun _ hi hj => hij (hi.symm.trans hj)
  inv_rely hinv h := h.wellFormed hinv
  inv_guarantee hinv h := h.wellFormed hinv

/-- Kept by every thread. -/
structure Lasts (K : Directory → Prop) : Prop where
  keeps : ∀ {may : Nat → Prop} {dir dir' : Directory}, Change may dir dir' → K dir → K dir'

theorem Lasts.lasting (hK : Lasts K) (i : Nat) : Lasting agreement i K where
  stable _ h hk := hK.keeps h hk
  own _ h hk := hK.keeps h hk

theorem Lasts.stable (hK : Lasts K) (i : Nat) : Stable agreement i K :=
  (hK.lasting i).stable

theorem lasts_const (p : Prop) : Lasts fun _ => p := ⟨fun _ hp => hp⟩

theorem Lasts.and {L : Directory → Prop} (hK : Lasts K) (hL : Lasts L) :
    Lasts fun dir => K dir ∧ L dir :=
  ⟨fun h hkl => ⟨hK.keeps h hkl.1, hL.keeps h hkl.2⟩⟩

theorem Lasts.exists {K : α → Directory → Prop} (hK : ∀ a, Lasts (K a)) :
    Lasts fun dir => ∃ a, K a dir := by
  refine ⟨?_⟩
  rintro may dir dir' h ⟨a, ha⟩
  exact ⟨a, (hK a).keeps h ha⟩

theorem Lasts.forall {K : α → Directory → Prop} (hK : ∀ a, Lasts (K a)) :
    Lasts fun dir => ∀ a, K a dir :=
  ⟨fun h ha a => (hK a).keeps h (ha a)⟩

theorem Lasts.imp {p : Prop} (hK : Lasts K) : Lasts fun dir => p → K dir :=
  ⟨fun h hk hp => hK.keeps h (hk hp)⟩

theorem lasts_entry (hname : ¬ IsTemporary name) (node : Nat) (file : Node) :
    Lasts fun dir => Entry dir name node file :=
  ⟨fun h hentry => h.published hentry hname⟩

theorem content_of_kept {dir : Directory}
    (h : ∀ {name node file}, Entry dir name node file → ¬ IsTemporary name →
      Entry dir' name node file) {name bytes : JsString} (hname : ¬ IsTemporary name)
    (hcontent : dir.content name = some bytes) : dir'.content name = some bytes := by
  obtain ⟨node, file, hentry, rfl⟩ := exists_entry_of_content hcontent
  exact (h hentry hname).content

theorem published_of_kept {dir : Directory}
    (h : ∀ {name node file}, Entry dir name node file → ¬ IsTemporary name →
      Entry dir' name node file) {name bytes : JsString} (hpublished : Published dir name bytes) :
    Published dir' name bytes := by
  rcases hpublished with ⟨hid, hcandidates⟩ | ⟨targets, hid, hprepared⟩
  · exact .prepared hid hcandidates
  · exact .terminal targets hid (content_of_kept h (not_isTemporary_prepared _) hprepared)

theorem lasts_content (hname : ¬ IsTemporary name) (bytes : JsString) :
    Lasts fun dir => dir.content name = some bytes :=
  ⟨fun h hcontent => content_of_kept h.published hname hcontent⟩

theorem lasts_published (name bytes : JsString) : Lasts fun dir => Published dir name bytes :=
  ⟨fun h hpublished => published_of_kept h.published hpublished⟩

theorem Change.of_entries {dir : Directory}
    (hkept : ∀ {name node file}, Entry dir name node file → ¬ IsTemporary name →
      Entry dir' name node file)
    (hothers : ∀ {node file}, dir.nodes[node]? = some file → ¬ may file.owner →
      dir'.nodes[node]? = some file ∧
        ∀ name, dir'.names name = some node ↔ dir.names name = some node)
    (hplaced : ∀ {name node}, dir'.names name = some node → node < dir'.nodes.length)
    (hnew : ∀ {name node file}, Entry dir' name node file → ¬ IsTemporary name →
      Published dir name file.bytes) : Change may dir dir' where
  published := hkept
  others := hothers
  wellFormed _ :=
    { placed := hplaced
      published := fun hentry hname => published_of_kept hkept (hnew hentry hname) }

section Operations

variable {i : Nat} {dir : Directory} {temporary : JsString}

/-- A name that leads to a file of thread `i`. -/
def Owned (i : Nat) (temporary : JsString) (dir : Directory) : Prop :=
  ∃ node file, Entry dir temporary node file ∧ file.owner = i

/-- A file of thread `i` under no other name yet. -/
structure Staged (i : Nat) (temporary : JsString) (node : Nat) (bytes : JsString)
    (dir : Directory) : Prop where
  entry : Entry dir temporary node ⟨i, bytes⟩
  only : ∀ name, dir.names name = some node → name = temporary

/-- A file of thread `i` under a published name. -/
def Landed (i : Nat) (name bytes : JsString) (dir : Directory) : Prop :=
  ∃ node, Entry dir name node ⟨i, bytes⟩

variable {node : Nat} {bytes : JsString}

theorem Staged.owned (h : Staged i temporary node bytes dir) :
    Owned i temporary dir := ⟨node, _, h.entry, rfl⟩

theorem Landed.content {name : JsString} (h : Landed i name bytes dir) :
    dir.content name = some bytes := by
  obtain ⟨node, hentry⟩ := h
  exact hentry.content

theorem lasts_landed {name : JsString} (hname : ¬ IsTemporary name) (bytes : JsString) :
    Lasts (Landed i name bytes) := Lasts.exists fun node => lasts_entry hname node _

theorem stable_owned : Stable agreement i (Owned i temporary) := by
  rintro dir dir' - h ⟨node, file, hentry, howner⟩
  obtain ⟨hnode, hnames⟩ := h.others hentry.node_eq (not_not.mpr howner)
  exact ⟨node, file, ⟨(hnames temporary).mpr hentry.name_eq, hnode⟩, howner⟩

theorem stable_staged : Stable agreement i (Staged i temporary node bytes) := by
  rintro dir dir' - h ⟨hentry, honly⟩
  obtain ⟨hnode, hnames⟩ := h.others hentry.node_eq (not_not.mpr rfl)
  exact ⟨⟨(hnames temporary).mpr hentry.name_eq, hnode⟩,
    fun name hname => honly name ((hnames name).mp hname)⟩

theorem change_create (hinv : WellFormed dir) (htemporary : IsTemporary temporary)
    (hfree : dir.names temporary = none) : Change (· = i) dir (dir.create temporary i) := by
  have hnames : ∀ name, name ≠ temporary → (dir.create temporary i).names name = dir.names name :=
    fun name hne => Function.update_of_ne hne _ _
  have hnodes : ∀ {node : Nat} {file : Node}, dir.nodes[node]? = some file →
      (dir.create temporary i).nodes[node]? = some file := by
    intro node file hnode
    exact (List.getElem?_append_left (List.getElem?_eq_some_iff.mp hnode).1).trans hnode
  have hne : ∀ {name}, ¬ IsTemporary name → name ≠ temporary := by
    rintro name hname rfl
    exact hname htemporary
  have hself : (dir.create temporary i).names temporary = some dir.nodes.length :=
    Function.update_self ..
  refine .of_entries ?_ ?_ ?_ ?_
  · intro name node file hentry hname
    exact ⟨(hnames name (hne hname)).trans hentry.name_eq, hnodes hentry.node_eq⟩
  · intro node file hnode _
    refine ⟨hnodes hnode, ?_⟩
    intro name
    by_cases hname : name = temporary
    · rw [hname, hself, hfree]
      have hlt := (List.getElem?_eq_some_iff.mp hnode).1
      refine iff_of_false ?_ (by simp)
      intro heq
      exact absurd (Option.some.inj heq) (by omega)
    · rw [hnames name hname]
  · intro name node hname
    rw [Directory.create, List.length_append]
    by_cases heq : name = temporary
    · rw [heq, hself] at hname
      obtain rfl := Option.some.inj hname
      exact Nat.lt_add_one _
    · rw [hnames name heq] at hname
      exact Nat.lt_add_right _ (hinv.placed hname)
  · intro name node file hentry hname
    have hold := hentry.name_eq
    rw [hnames name (hne hname)] at hold
    have hnode := hentry.node_eq
    rw [Directory.create, List.getElem?_append_left (hinv.placed hold)] at hnode
    exact hinv.published ⟨hold, hnode⟩ hname

theorem staged_create (hinv : WellFormed dir) :
    Staged i temporary dir.nodes.length [] (dir.create temporary i) := by
  refine ⟨⟨Function.update_self .., List.getElem?_concat_length⟩, ?_⟩
  intro name hname
  by_contra hne
  have hold : dir.names name = some dir.nodes.length :=
    (Function.update_of_ne hne _ _).symm.trans hname
  exact absurd (hinv.placed hold) (lt_irrefl _)

theorem nodes_write_of_ne {node' : Nat} (hne : node' ≠ node) (bytes : JsString) :
    (dir.write node bytes).nodes[node']? = dir.nodes[node']? := by
  exact List.getElem?_modify_ne _ _ hne.symm

theorem change_write (left : JsString) (hinv : WellFormed dir)
    (htemporary : IsTemporary temporary) (hstaged : Staged i temporary node bytes dir) :
    Change (· = i) dir (dir.write node left) := by
  have hother : ∀ {name node'}, dir.names name = some node' → ¬ IsTemporary name → node' ≠ node := by
    rintro name node' hname hpublished rfl
    rw [hstaged.only name hname] at hpublished
    exact hpublished htemporary
  refine .of_entries ?_ ?_ ?_ ?_
  · intro name node' file hentry hname
    refine ⟨hentry.name_eq, ?_⟩
    rw [nodes_write_of_ne (hother hentry.name_eq hname)]
    exact hentry.node_eq
  · intro node' file hnode howner
    have hne : node' ≠ node := by
      rintro rfl
      rw [hstaged.entry.node_eq] at hnode
      exact howner (congrArg Node.owner (Option.some.inj hnode)).symm
    exact ⟨(nodes_write_of_ne hne left).trans hnode, fun _ => Iff.rfl⟩
  · intro name node' hname
    rw [Directory.write, List.length_modify]
    exact hinv.placed hname
  · intro name node' file hentry hname
    have hnode := hentry.node_eq
    rw [nodes_write_of_ne (hother hentry.name_eq hname)] at hnode
    exact hinv.published ⟨hentry.name_eq, hnode⟩ hname

theorem staged_write (left : JsString) (hstaged : Staged i temporary node bytes dir) :
    Staged i temporary node left (dir.write node left) := by
  refine ⟨⟨hstaged.entry.name_eq, ?_⟩, hstaged.only⟩
  rw [Directory.write, List.getElem?_modify_eq, hstaged.entry.node_eq]
  rfl

theorem change_unlink (hinv : WellFormed dir) (htemporary : IsTemporary temporary)
    (howned : Owned i temporary dir) : Change (· = i) dir (dir.setName temporary none) := by
  obtain ⟨own, file, hown, howner⟩ := howned
  have hnames : ∀ name, name ≠ temporary → (dir.setName temporary none).names name = dir.names name :=
    fun name hne => Function.update_of_ne hne _ _
  have hself : (dir.setName temporary none).names temporary = none := Function.update_self ..
  have hne : ∀ {name}, ¬ IsTemporary name → name ≠ temporary := by
    rintro name hname rfl
    exact hname htemporary
  refine .of_entries ?_ ?_ ?_ ?_
  · intro name node file' hentry hname
    exact ⟨(hnames name (hne hname)).trans hentry.name_eq, hentry.node_eq⟩
  · intro node file' hnode howner'
    refine ⟨hnode, ?_⟩
    intro name
    by_cases hname : name = temporary
    · rw [hname, hself, hown.name_eq]
      refine iff_of_false (by simp) ?_
      rintro heq
      obtain rfl := Option.some.inj heq
      rw [hown.node_eq] at hnode
      exact howner' (Option.some.inj hnode ▸ howner)
    · rw [hnames name hname]
  · intro name node hname
    by_cases heq : name = temporary
    · rw [heq, hself] at hname
      cases hname
    · exact hinv.placed ((hnames name heq).symm.trans hname)
  · intro name node file' hentry hname
    exact hinv.published ⟨(hnames name (hne hname)).symm.trans hentry.name_eq, hentry.node_eq⟩ hname

theorem change_link {destination : JsString} (hinv : WellFormed dir)
    (hstaged : Staged i temporary node bytes dir) (hfree : dir.names destination = none)
    (hpublished : Published dir destination bytes) :
    Change (· = i) dir (dir.setName destination (some node)) := by
  have hnames : ∀ name, name ≠ destination →
      (dir.setName destination (some node)).names name = dir.names name :=
    fun name hne => Function.update_of_ne hne _ _
  have hself : (dir.setName destination (some node)).names destination = some node :=
    Function.update_self ..
  have hne : ∀ {name node'}, dir.names name = some node' → name ≠ destination := by
    rintro name node' hname rfl
    rw [hfree] at hname
    cases hname
  refine .of_entries ?_ ?_ ?_ ?_
  · intro name node' file hentry hname
    exact ⟨(hnames name (hne hentry.name_eq)).trans hentry.name_eq, hentry.node_eq⟩
  · intro node' file hnode howner
    refine ⟨hnode, ?_⟩
    intro name
    by_cases hname : name = destination
    · rw [hname, hself, hfree]
      refine iff_of_false ?_ (by simp)
      rintro heq
      obtain rfl := Option.some.inj heq
      rw [hstaged.entry.node_eq] at hnode
      exact howner (congrArg Node.owner (Option.some.inj hnode)).symm
    · rw [hnames name hname]
  · intro name node' hname
    by_cases heq : name = destination
    · rw [heq, hself] at hname
      obtain rfl := Option.some.inj hname
      exact hinv.placed hstaged.entry.name_eq
    · exact hinv.placed ((hnames name heq).symm.trans hname)
  · intro name node' file hentry hname
    by_cases heq : name = destination
    · have hnode := hentry.name_eq
      rw [heq, hself] at hnode
      obtain rfl := Option.some.inj hnode
      have hfile := hentry.node_eq.symm.trans hstaged.entry.node_eq
      rw [heq, Option.some.inj hfile]
      exact hpublished
    · exact hinv.published ⟨(hnames name heq).symm.trans hentry.name_eq, hentry.node_eq⟩ hname

end Operations

section Rules

variable {i : Nat} {P : Directory → Prop} {temporary : JsString}

section

variable (hP : Stable agreement i P)

include hP

theorem triple_quiet {op : FsOp} {Q : op.Reply → Directory → Prop}
    (hQ : ∀ reply, Stable agreement i (Q reply))
    (hop : ∀ {dir reply dir'}, P dir → Perform i op dir reply dir' → dir' = dir ∧ Q reply dir) :
    Triple agreement i P (.call (E := fileSystem) op .done) Q := by
  refine Triple.act hP hQ ?_
  intro dir reply dir' _ hdir hperform
  obtain ⟨rfl, hreply⟩ := hop hdir hperform
  exact ⟨Change.refl _ _, hreply⟩

theorem triple_ensureJournalRoot : Triple agreement i P ensureJournalRoot fun _ => P := by
  refine triple_quiet hP (fun _ => hP) ?_
  rintro dir reply dir' hdir ⟨⟩
  exact ⟨rfl, hdir⟩

theorem triple_close (node : Nat) : Triple agreement i P (close node) fun _ => P := by
  refine triple_quiet hP (fun _ => hP) ?_
  rintro dir reply dir' hdir ⟨⟩
  exact ⟨rfl, hdir⟩

theorem triple_existsSync (name : JsString) :
    Triple agreement i P (existsSync name) fun _ => P := by
  refine triple_quiet hP (fun _ => hP) ?_
  rintro dir reply dir' hdir (_ | _)
  · exact ⟨rfl, hdir⟩
  · exact ⟨rfl, hdir⟩

theorem triple_lstat (name : JsString) : Triple agreement i P (lstat name) fun _ => P := by
  refine triple_quiet hP (fun _ => hP) ?_
  rintro dir reply dir' hdir (_ | _)
  · exact ⟨rfl, hdir⟩
  · exact ⟨rfl, hdir⟩

theorem triple_syncDirectory : Triple agreement i P syncDirectory fun _ => P := by
  refine triple_quiet hP (fun _ => hP) ?_
  rintro dir reply dir' hdir ⟨⟩
  exact ⟨rfl, hdir⟩

end

theorem triple_readFile {name : JsString} (hname : ¬ IsTemporary name) :
    Triple agreement i (fun _ => True) (readFile name)
      fun reply dir => ∀ bytes, reply = some bytes → dir.content name = some bytes := by
  have hlasts : ∀ reply : Option JsString,
      Lasts fun dir => ∀ bytes, reply = some bytes → dir.content name = some bytes :=
    fun reply => Lasts.forall fun bytes => Lasts.imp (lasts_content hname bytes)
  refine triple_quiet (fun _ _ h => h) (fun reply => (hlasts reply).stable i) ?_
  rintro dir reply dir' - (hcontent | _)
  · refine ⟨rfl, ?_⟩
    rintro bytes ⟨⟩
    assumption
  · exact ⟨rfl, nofun⟩

theorem triple_openExclusive (htemporary : IsTemporary temporary) :
    Triple agreement i (fun _ => True) (openExclusive temporary)
      fun reply dir => ∀ node, reply = some node → Staged i temporary node [] dir := by
  refine Triple.act (fun _ _ h => h) ?_ ?_
  · intro reply dir dir' hinv h hstaged node hnode
    exact stable_staged hinv h (hstaged node hnode)
  · rintro dir reply dir' hinv - (hfree | _)
    · refine ⟨change_create hinv htemporary ‹_›, ?_⟩
      rintro node ⟨⟩
      exact staged_create hinv
    · exact ⟨Change.refl _ _, nofun⟩

theorem triple_writeAndSync (htemporary : IsTemporary temporary) {node : Nat} {bytes : JsString} :
    Triple agreement i (Staged i temporary node []) (writeAndSync node bytes)
      fun ok dir => Owned i temporary dir ∧ (ok = true → Staged i temporary node bytes dir) := by
  refine Triple.act stable_staged ?_ ?_
  · rintro ok dir dir' hinv h ⟨howned, hstaged⟩
    exact ⟨stable_owned hinv h howned, fun hok => stable_staged hinv h (hstaged hok)⟩
  · rintro dir ok dir' hinv hdir (_ | _)
    · have hstaged := staged_write bytes hdir
      exact ⟨change_write bytes hinv htemporary hdir, hstaged.owned, fun _ => hstaged⟩
    · rename_i left
      exact ⟨change_write left hinv htemporary hdir, (staged_write left hdir).owned, nofun⟩

theorem triple_unlink (htemporary : IsTemporary temporary) :
    Triple agreement i (Owned i temporary) (unlink temporary) fun _ _ => True := by
  refine Triple.act stable_owned (fun _ _ _ _ _ _ => trivial) ?_
  rintro dir ok dir' hinv hdir (_ | _)
  · exact ⟨change_unlink hinv htemporary hdir, trivial⟩
  · exact ⟨Change.refl _ _, trivial⟩

theorem triple_link {node : Nat} {bytes destination : JsString}
    (hdestination : ¬ IsTemporary destination) : Triple agreement i
      (fun dir => Staged i temporary node bytes dir ∧ Published dir destination bytes)
      (link temporary destination)
      fun reply dir => Owned i temporary dir ∧ (reply = .linked → Landed i destination bytes dir) := by
  refine Triple.act ?_ ?_ ?_
  · rintro dir dir' hinv h ⟨hstaged, hpublished⟩
    exact ⟨stable_staged hinv h hstaged, (lasts_published _ _).keeps h hpublished⟩
  · rintro reply dir dir' hinv h ⟨howned, hlanded⟩
    exact ⟨stable_owned hinv h howned,
      fun hreply => (lasts_landed hdestination _).keeps h (hlanded hreply)⟩
  · rintro dir reply dir' hinv ⟨hstaged, hpublished⟩ hperform
    rcases hperform with _ | _ | _ | _ | _ | _ | _ | _ | _ | _ | _ | _ | ⟨hsource, hfree⟩ | _ | _ | _
    · obtain rfl := Option.some.inj (hsource.symm.trans hstaged.entry.name_eq)
      have hne : temporary ≠ destination := by
        rintro rfl
        rw [hfree] at hsource
        cases hsource
      refine ⟨change_link hinv hstaged hfree hpublished, ?_, ?_⟩
      · exact ⟨_, _, ⟨(Function.update_of_ne hne _ _).trans hstaged.entry.name_eq,
          hstaged.entry.node_eq⟩, rfl⟩
      · intro _
        exact ⟨_, Function.update_self .., hstaged.entry.node_eq⟩
    · exact ⟨Change.refl _ _, hstaged.owned, nofun⟩
    · exact ⟨Change.refl _ _, hstaged.owned, nofun⟩
    · exact ⟨Change.refl _ _, hstaged.owned, nofun⟩

end Rules

end NightWatch.EvidenceRetention.JournalRules
