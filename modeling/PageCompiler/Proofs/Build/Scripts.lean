import PageCompiler.Proofs.Build.Assembly
import PageCompiler.Proofs.Component.ClassTag
import PageCompiler.Proofs.Keyed
import PageCompiler.Proofs.Program.Script

/-!
# Scripts of assembled programs

No text of a page adds a line to the script of the program that is assembled from it, or a character
that is not printable ASCII, and programs are told apart by their scripts (`script_of_isAssembled`).

For the last, no visual component may have an empty class tag : an empty tag is left out of a
script, so that the component is registered in it like a service (`script_of_nameless`). Only an
empty name or one that ends with a point gives an empty tag (`classTag_ne_empty`).
-/

namespace PageCompiler.Build

open Markup

/-! ## Class tags -/

theorem shortName_ne_empty {name : String} (hne : name ≠ "")
    (hpoint : name.toList.getLast? ≠ some '.') : Component.shortName name ≠ "" := by
  obtain ⟨-, hshort⟩ | ⟨before, after, hname, -, hshort⟩ := Component.shortName_cases name
  · rwa [hshort]
  · intro hempty
    have hafter : after = [] := by simpa using hshort.symm.trans hempty
    rw [hname, hafter, List.getLast?_concat] at hpoint
    exact hpoint rfl

/-- A name that neither is empty nor ends with a point gives a class tag that is not empty. -/
theorem classTag_ne_empty {name : String} (hne : name ≠ "")
    (hpoint : name.toList.getLast? ≠ some '.') (declared : List String) :
    Component.classTag name declared ≠ "" := by
  obtain htag | htag := Component.classTag_cases name declared
  · rwa [htag]
  · rw [htag]
    exact shortName_ne_empty hne hpoint

namespace Facts

/-- No visual component that is declared has an empty class tag, neither one that was settled nor
one that its name gives. -/
def TagsShow (facts : Facts) : Prop :=
  ∀ name ∈ facts.components.keys, facts.isVisual name = true → (facts.classTag name).1 ≠ ""

theorem tagsShow_of_names {facts : Facts}
    (hnames : ∀ name ∈ facts.components.keys, name ≠ "" ∧ name.toList.getLast? ≠ some '.')
    (htags : ∀ entry ∈ facts.classTags, entry.2 ≠ "") : facts.TagsShow := by
  intro name hmem _
  unfold classTag
  split
  · next tag hget => exact htags _ (Keyed.mem_of_get? hget)
  · exact classTag_ne_empty (hnames name hmem).1 (hnames name hmem).2 _

end Facts

/-! ## Assembling -/

theorem isVariable_variableName (number : Nat) : IsVariable (Assembly.variableName number) := by
  refine ⟨Nat.toDigits 10 number, ?_, fun d hd => ?_⟩
  · simp only [Assembly.variableName, String.toList_append, Nat.toString_eq_ofList_toDigits,
      String.toList_ofList]
  · exact Nat.isDigit_of_mem_toDigits (by decide) (by decide) hd

/-- The actions for a declared component can be put into a script. -/
theorem IsBlock.isScriptable {facts : Facts} {entry : String × Declaration} {block : List Action}
    (h : IsBlock facts entry block) : ∀ action ∈ block, action.IsScriptable := by
  have hnone : ∀ held ∈ (none : Option String), IsVariable held :=
    fun _ hm => absurd hm (Option.not_mem_none _)
  cases h with
  | service => exact List.forall_mem_cons.2 ⟨trivial, List.forall_mem_singleton.2 hnone⟩
  | bare => exact List.forall_mem_cons.2 ⟨trivial, List.forall_mem_singleton.2 hnone⟩
  | configured _ _ number =>
    have hvariable := isVariable_variableName number
    have hsome : ∀ held ∈ some (Assembly.variableName number), IsVariable held :=
      fun _ hm => Option.some.inj hm ▸ hvariable
    exact List.forall_mem_cons.2 ⟨trivial,
      List.forall_mem_cons.2 ⟨hvariable, List.forall_mem_singleton.2 hsome⟩⟩

/-- A script shows the class tag of a declared component. -/
theorem IsBlock.showsTag {facts : Facts} {entry : String × Declaration} {block : List Action}
    (h : IsBlock facts entry block) (ht : facts.TagsShow)
    (hmem : entry.1 ∈ facts.components.keys) : ∀ action ∈ block, action.ShowsTag := by
  have htag : facts.isVisual entry.1 = true → some (facts.classTag entry.1).1 ≠ some "" :=
    fun hv he => ht entry.1 hmem hv (Option.some.inj he)
  cases h with
  | service =>
    exact List.forall_mem_cons.2
      ⟨trivial, List.forall_mem_singleton.2 (Option.some_ne_none _).symm⟩
  | bare kind => exact List.forall_mem_cons.2 ⟨trivial, List.forall_mem_singleton.2 (htag kind)⟩
  | configured kind =>
    exact List.forall_mem_cons.2 ⟨trivial,
      List.forall_mem_cons.2 ⟨trivial, List.forall_mem_singleton.2 (htag kind)⟩⟩

/-- The embedded markup is a text in the compact form. -/
theorem isScriptable_embedding (page : Page) (facts : Facts) :
    ∀ action ∈ embedding page facts, action.IsScriptable ∧ action.ShowsTag := by
  intro action hmem
  rw [(mem_embedding.1 hmem).2]
  exact ⟨⟨rfl, _, rfl⟩, trivial⟩

theorem isScriptable_launching (facts : Facts) :
    (launching facts).IsScriptable ∧ (launching facts).ShowsTag := by
  rcases launching_cases facts with hl | hl <;> rw [hl] <;> exact ⟨trivial, trivial⟩

/-- An assembled program can be put into a script under whatever name it is exposed. -/
theorem isScriptable_assemble (page : Page) (facts : Facts) {exposedName : Option String}
    (hname : exposedName ≠ some "") :
    Program.IsScriptable { (assemble page facts).1 with exposedName } ∧
      (facts.TagsShow → Program.ShowsTags { (assemble page facts).1 with exposedName }) := by
  obtain ⟨-, blocks, hblocks, hactions⟩ := actions_assemble page facts
  have hembedding := isScriptable_embedding page facts
  have hlaunching := isScriptable_launching facts
  have hstarting := starting_cases facts
  refine ⟨⟨⟨_, starting facts, ?_, hstarting, hactions⟩, hname⟩, fun ht => ?_⟩
  · refine List.forall_mem_append.2 ⟨List.forall_mem_append.2 ⟨fun action hm => ?_, ?_⟩,
      List.forall_mem_singleton.2 hlaunching.1⟩
    · obtain ⟨entry, -, block, hblock, hm⟩ := exists_block_of_mem hblocks hm
      exact hblock.isScriptable action hm
    · exact fun action hm => (hembedding action hm).1
  · rw [Program.ShowsTags, hactions]
    refine List.forall_mem_append.2 ⟨List.forall_mem_append.2 ⟨List.forall_mem_append.2
      ⟨fun action hm => ?_, ?_⟩, List.forall_mem_singleton.2 hlaunching.2⟩, ?_⟩
    · obtain ⟨entry, hentry, block, hblock, hm⟩ := exists_block_of_mem hblocks hm
      exact hblock.showsTag ht (List.mem_map_of_mem hentry) action hm
    · exact fun action hm => (hembedding action hm).2
    · intro action hm
      rw [eq_of_mem_starting hm]
      trivial

/-! ## Scripts -/

/-- A program that was assembled from some page with these facts, and then exposed under a name or
none. -/
def IsAssembled (facts : Facts) (program : Program) : Prop :=
  program.exposedName ≠ some "" ∧
    ∃ page, program = { (assemble page facts).1 with exposedName := program.exposedName }

theorem IsAssembled.isScriptable {facts : Facts} {program : Program}
    (h : IsAssembled facts program) :
    program.IsScriptable ∧ (facts.TagsShow → program.ShowsTags) := by
  obtain ⟨hname, page, hsame⟩ := h
  rw [hsame]
  exact isScriptable_assemble page facts hname

/-- The script of an assembled program is printable ASCII and line ends, has a line for every
statement, as many as the kinds of its actions say, and tells it from all other programs if no
visual component has an empty class tag. -/
theorem script_of_isAssembled {facts facts' : Facts} {program other : Program}
    (h : IsAssembled facts program) (h' : IsAssembled facts' other) :
    (∀ c ∈ program.script.toList, c = '\n' ∨ 0x20 ≤ c.toNat ∧ c.toNat < 0x7F) ∧
      Text.pieces (· == '\n') program.script.toList =
        program.scriptLines.map String.toList ++ [[]] ∧
      program.scriptLines.length =
        14 + program.actions.length + program.actions.countP Action.embeds +
          (if program.exposedName.isSome then 1 else 0) ∧
      (facts.TagsShow → facts'.TagsShow → program.script = other.script → program = other) := by
  obtain ⟨hscriptable, hshows⟩ := h.isScriptable
  obtain ⟨hscriptable', hshows'⟩ := h'.isScriptable
  have hlines := Program.isPlainText_scriptLines hscriptable
  refine ⟨fun c hc => ?_, Program.pieces_script hscriptable, ?_, fun ht ht' heq =>
    Program.script_inj hscriptable (hshows ht) hscriptable' (hshows' ht') heq⟩
  · rw [Program.toList_script] at hc
    obtain ⟨line, hline, hc⟩ := List.mem_flatMap.1 hc
    rcases List.mem_append.1 hc with hc | hc
    · exact .inr (hlines line hline c hc)
    · exact .inl (List.mem_singleton.1 hc)
  · rw [Program.length_scriptLines, Program.length_exposure hscriptable.exposedName]

/-- A page without anything. -/
def emptyPage : Page :=
  .ofDocument ⟨documentHead, .nil⟩

/-- A visual component with an argument and a service. -/
def cardFacts : Facts :=
  { ((Facts.start .js []).declare "ui.Card" [("data-title", "\"\n")] "").declare
      "app.Log" [] "" with
    descriptors := [("ui.Card", ⟨"ui.Card", .visual, []⟩)] }

/-- The same page without the argument. -/
def plainFacts : Facts :=
  { ((Facts.start .js []).declare "ui.Card" [] "").declare "app.Log" [] "" with
    descriptors := [("ui.Card", ⟨"ui.Card", .visual, []⟩)] }

theorem script_of_isAssembled_card :
    cardFacts.TagsShow ∧ plainFacts.TagsShow ∧
      (assemble emptyPage cardFacts).1.scriptLines.length = 21 ∧
      (assemble emptyPage cardFacts).1.script ≠ (assemble emptyPage plainFacts).1.script := by
  have hcard : cardFacts.TagsShow := Facts.tagsShow_of_names (by decide) (by decide)
  have hplain : plainFacts.TagsShow := Facts.tagsShow_of_names (by decide) (by decide)
  have hassembled : IsAssembled cardFacts (assemble emptyPage cardFacts).1 :=
    ⟨by decide, emptyPage, rfl⟩
  have hassembled' : IsAssembled plainFacts (assemble emptyPage plainFacts).1 :=
    ⟨by decide, emptyPage, rfl⟩
  obtain ⟨-, -, hlength, hinj⟩ := script_of_isAssembled hassembled hassembled'
  refine ⟨hcard, hplain, hlength.trans (by decide), fun heq => ?_⟩
  exact absurd (hinj hcard hplain heq) (by decide)

/-- A component without a name, once known to be visual and once not known at all. -/
def namelessFacts (descriptors : Keyed Component.Descriptor) : Facts :=
  { (Facts.start .js []).declare "" [] "" with descriptors }

/-- Programs can differ in an empty class tag alone, which their scripts do not show. -/
theorem script_of_nameless :
    (∀ name ∈ (namelessFacts [("", ⟨"", .visual, []⟩)]).components.keys,
      name.toList.getLast? ≠ some '.') ∧
      (∀ name ∈ (namelessFacts []).components.keys, name.toList.getLast? ≠ some '.') ∧
      (assemble emptyPage (namelessFacts [("", ⟨"", .visual, []⟩)])).1.script =
        (assemble emptyPage (namelessFacts [])).1.script ∧
      (assemble emptyPage (namelessFacts [("", ⟨"", .visual, []⟩)])).1 ≠
        (assemble emptyPage (namelessFacts [])).1 := by
  decide +kernel

end PageCompiler.Build
