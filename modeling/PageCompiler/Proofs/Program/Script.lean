import PageCompiler.Proofs.Program.Statements
import PageCompiler.Text.Cut

/-!
# Scripts tell programs apart

The script of a program is printable ASCII and has a line for every statement, whatever texts the
program holds (`isPlainText_scriptLines`, `pieces_script`) : how many lines it has depends on the
kinds of the actions only (`length_scriptLines`). Programs whose class tags show are told apart by
their scripts (`script_inj`).

A script is taken apart from the outside inwards : into its lines, and the lines into those of the
parameters, of the statements, of `main` and of the exposed name. An empty line ends the statements,
since each of them is indented.
-/

namespace PageCompiler

open Json

/-! ## Lines -/

namespace Text

theorem pieces_append_cons {p : Char → Bool} {a : Char} (ha : p a = true) (rest : List Char) :
    ∀ {x : List Char}, (∀ c ∈ x, p c = false) → pieces p (x ++ a :: rest) = x :: pieces p rest
  | [], _ => by
    rw [List.nil_append, pieces, if_pos ha]
  | c :: x, hx => by
    have ih := pieces_append_cons ha rest fun d hd => hx d (List.mem_cons_of_mem _ hd)
    rw [List.cons_append, pieces, if_neg (Bool.eq_false_iff.1 (hx c List.mem_cons_self)), ih]

/-- A text is cut into its lines, and nothing stands behind the last line end. -/
theorem pieces_lines : ∀ {lines : List String},
    (∀ line ∈ lines, ∀ c ∈ line.toList, (c == '\n') = false) →
      pieces (· == '\n') (lines.flatMap fun line => line.toList ++ ['\n']) =
        lines.map String.toList ++ [[]]
  | [], _ => rfl
  | line :: lines, h => by
    have ih := pieces_lines fun other ho => h other (List.mem_cons_of_mem _ ho)
    rw [List.flatMap_cons, List.append_assoc, List.singleton_append,
      pieces_append_cons (by rfl) _ (h line List.mem_cons_self), ih]
    rfl

end Text

namespace Program

theorem toList_script (program : Program) :
    program.script.toList = program.scriptLines.flatMap fun line => line.toList ++ ['\n'] := by
  have hend : "\n".toList = ['\n'] := rfl
  rw [script, String.toList_join, List.flatMap_map]
  simp only [String.toList_append, hend]

end Program

namespace Program

/-! ## Scripts -/

/-- A program as it is put into a script : its actions are scriptable but for the last one, which
may start the script, and its exposed name is not empty. -/
structure IsScriptable (program : Program) : Prop where
  actions : ∃ before ending, (∀ action ∈ before, action.IsScriptable) ∧
    (ending = [] ∨ ending = [.startInit]) ∧ program.actions = before ++ ending
  exposedName : program.exposedName ≠ some ""

/-- All class tags show in the script. -/
def ShowsTags (program : Program) : Prop :=
  ∀ action ∈ program.actions, action.ShowsTag

/-- The statements of a scriptable program come from the actions before the last one, and those of
`main` from the last one. -/
theorem IsScriptable.parts {program : Program} (h : program.IsScriptable) :
    ∃ before ending, (∀ action ∈ before, action.IsScriptable) ∧
      (ending = [] ∨ ending = [.startInit]) ∧ program.actions = before ++ ending ∧
      program.actions.flatMap statements = before.flatMap statements ∧
      program.actions.flatMap mainStatements = ending.flatMap mainStatements := by
  obtain ⟨before, ending, hbefore, hending, hactions⟩ := h.actions
  refine ⟨before, ending, hbefore, hending, hactions, ?_, ?_⟩
  · rw [hactions, List.flatMap_append]
    rcases hending with rfl | rfl
    · exact List.append_nil _
    · exact List.append_nil _
  · have hnone : before.flatMap mainStatements = [] := by
      refine List.flatMap_eq_nil_iff.2 fun action hm => ?_
      have hscriptable := hbefore action hm
      cases action with
      | startInit => exact absurd hscriptable id
      | _ => rfl
    rw [hactions, List.flatMap_append, hnone, List.nil_append]

theorem isPlainText_exposure (exposedName : Option String) :
    ∀ line ∈ exposure exposedName, IsPlainText line := by
  unfold exposure
  split
  · exact fun _ hm => absurd hm List.not_mem_nil
  · split
    · exact fun _ hm => absurd hm List.not_mem_nil
    · refine List.forall_mem_singleton.2 ?_
      simp only [isPlainText_append, isPlainText_compactText]
      decide

/-- A script holds nothing but printable ASCII and line ends. -/
theorem isPlainText_scriptLines {program : Program} (h : program.IsScriptable) :
    ∀ line ∈ program.scriptLines, IsPlainText line := by
  obtain ⟨before, ending, hbefore, hending, -, hstatements, hmain⟩ := h.parts
  have hbody : ∀ line ∈ before.flatMap statements, IsPlainText line := by
    intro line hm
    obtain ⟨action, hmem, hline⟩ := List.mem_flatMap.1 hm
    exact isPlainText_statements (hbefore action hmem) line hline
  have hstart : ∀ line ∈ ending.flatMap mainStatements, IsPlainText line := by
    rcases hending with rfl | rfl
    · exact fun _ hm => absurd hm List.not_mem_nil
    · exact List.forall_mem_singleton.2 (by decide)
  have hparameters : IsPlainText ("  var application = new slp.Application(" ++
      compactTexts program.parameters ++ ");") := by
    simp only [isPlainText_append, isPlainText_compactTexts]
    decide
  have hindented : ∀ (blanks : String) (lines : List String), IsPlainText blanks →
      (∀ line ∈ lines, IsPlainText line) →
        ∀ line ∈ lines.map fun line => blanks ++ line, IsPlainText line := by
    intro blanks lines hblanks hlines line hm
    obtain ⟨inner, hinner, rfl⟩ := List.mem_map.1 hm
    exact isPlainText_append.2 ⟨hblanks, hlines inner hinner⟩
  rw [scriptLines, hstatements, hmain]
  have hheader : ∀ line ∈ ["// Generated by slpc. Do not edit.", "(function (root) \x7b",
      "  \"use strict\";", "  var slp = root.slp;",
      "  var application = new slp.Application(" ++ compactTexts program.parameters ++ ");",
      "  var initCalls = [];"], IsPlainText line := by
    simp only [List.forall_mem_cons]
    exact ⟨by decide, by decide, by decide, by decide, hparameters, by decide,
      List.forall_mem_nil _⟩
  simp only [List.forall_mem_append]
  exact ⟨⟨⟨⟨⟨⟨hheader, hindented _ _ (by decide) hbody⟩, by decide⟩,
    hindented _ _ (by decide) hstart⟩, by decide⟩, isPlainText_exposure _⟩, by decide⟩

/-- The lines of a script are its statements. -/
theorem pieces_script {program : Program} (h : program.IsScriptable) :
    Text.pieces (· == '\n') program.script.toList =
      program.scriptLines.map String.toList ++ [[]] := by
  rw [toList_script]
  refine Text.pieces_lines fun line hm c hc => ?_
  have hplain := isPlainText_scriptLines h line hm c hc
  refine beq_eq_false_iff_ne.2 ?_
  rintro rfl
  exact absurd hplain (by decide)

theorem length_exposure {exposedName : Option String} (h : exposedName ≠ some "") :
    (exposure exposedName).length = if exposedName.isSome then 1 else 0 := by
  cases exposedName with
  | none => rfl
  | some name =>
    have hname : name ≠ "" := fun he => h (congrArg some he)
    rw [exposure, if_neg hname]
    rfl

/-- How many lines a script has depends on the kinds of the actions only. -/
theorem length_scriptLines (program : Program) :
    program.scriptLines.length =
      14 + program.actions.length + program.actions.countP Action.embeds +
        (exposure program.exposedName).length := by
  have hcount : ∀ actions : List Action,
      (actions.flatMap statements).length + (actions.flatMap mainStatements).length =
        actions.length + actions.countP Action.embeds := by
    intro actions
    induction actions with
    | nil => rfl
    | cons action actions ih =>
      have hone : (statements action).length + (mainStatements action).length =
          1 + if action.embeds then 1 else 0 := by
        cases action <;> rfl
      simp only [List.flatMap_cons, List.length_append, List.length_cons, List.countP_cons]
      omega
  have hactions := hcount program.actions
  simp only [scriptLines, List.length_append, List.length_map, List.length_cons, List.length_nil]
  omega

/-! ## Taking a script apart -/

theorem blanks_append_inj (blanks line other : String) (h : blanks ++ line = blanks ++ other) :
    line = other := by
  have hchars := congrArg String.toList h
  simp only [String.toList_append, List.append_cancel_left_eq] at hchars
  exact String.toList_inj.1 hchars

theorem exposure_inj {exposedName other : Option String} (h : exposedName ≠ some "")
    (h' : other ≠ some "") (heq : exposure exposedName = exposure other) :
    exposedName = other := by
  have hlength := congrArg List.length heq
  rw [length_exposure h, length_exposure h'] at hlength
  cases exposedName with
  | none =>
    cases other with
    | none => rfl
    | some name => cases hlength
  | some name =>
    cases other with
    | none => cases hlength
    | some name' =>
      have hname : name ≠ "" := fun he => h (congrArg some he)
      have hname' : name' ≠ "" := fun he => h' (congrArg some he)
      rw [exposure, exposure, if_neg hname, if_neg hname'] at heq
      have hline := congrArg String.toList (List.cons.inj heq).1
      simp only [String.toList_append, List.append_assoc, List.append_cancel_left_eq] at hline
      rw [(compactText_append_inj hline).1]

/-- Blanks in front keep a line from being another one. -/
theorem indented_ne {blanks line : String} (h : ¬blanks.toList <+: line.toList)
    (lines : List String) :
    ∀ other ∈ lines.map fun line => blanks ++ line, other ≠ line := by
  intro other hm
  obtain ⟨inner, -, rfl⟩ := List.mem_map.1 hm
  rintro rfl
  exact h ⟨inner.toList, String.toList_append.symm⟩

theorem ending_inj {ending other : List Action} (h : ending = [] ∨ ending = [.startInit])
    (h' : other = [] ∨ other = [.startInit])
    (heq : ending.flatMap mainStatements = other.flatMap mainStatements) : ending = other := by
  rcases h with rfl | rfl <;> rcases h' with rfl | rfl
  · rfl
  · cases heq
  · cases heq
  · rfl

/-- Programs with the same lines are the same. -/
theorem scriptLines_inj {program other : Program} (h : program.IsScriptable)
    (ht : program.ShowsTags) (h' : other.IsScriptable) (ht' : other.ShowsTags)
    (heq : program.scriptLines = other.scriptLines) : program = other := by
  obtain ⟨before, ending, hbefore, hending, hactions, hstatements, hmain⟩ := h.parts
  obtain ⟨before', ending', hbefore', hending', hactions', hstatements', hmain'⟩ := h'.parts
  simp only [scriptLines, hstatements, hmain, hstatements', hmain', List.cons_append,
    List.nil_append, List.append_assoc, List.cons.injEq, true_and] at heq
  obtain ⟨hparameters, hlines⟩ := heq
  have hparameters := congrArg String.toList hparameters
  simp only [String.toList_append, List.append_assoc, List.append_cancel_left_eq] at hparameters
  -- the first empty line ends the statements
  obtain ⟨hbody, -, hlines⟩ := span_inj (indented_ne (by decide) _) (indented_ne (by decide) _)
    (fun hne => hne rfl) (fun hne => hne rfl) hlines
  -- and the first brace behind it ends `main`
  simp only [List.cons.injEq, true_and] at hlines
  obtain ⟨hstart, -, hlines⟩ := span_inj (indented_ne (by decide) _) (indented_ne (by decide) _)
    (fun hne => hne rfl) (fun hne => hne rfl) hlines
  have hbefore := flatMap_statements_inj
    (fun action hm => ⟨hbefore action hm, ht action (hactions ▸ List.mem_append_left _ hm)⟩)
    (fun action hm => ⟨hbefore' action hm, ht' action (hactions' ▸ List.mem_append_left _ hm)⟩)
    ((List.map_inj_right (blanks_append_inj _)).1 hbody)
  have hending := ending_inj hending hending'
    ((List.map_inj_right (blanks_append_inj _)).1 hstart)
  have hexposed := exposure_inj h.exposedName h'.exposedName (List.append_cancel_right hlines)
  cases program
  cases other
  simp only at *
  rw [hactions, hactions', hbefore, hending, hexposed, (compactTexts_append_inj hparameters).1]

/-- Scriptable programs with the same script are the same. -/
theorem script_inj {program other : Program} (h : program.IsScriptable) (ht : program.ShowsTags)
    (h' : other.IsScriptable) (ht' : other.ShowsTags) (heq : program.script = other.script) :
    program = other := by
  have hlines := congrArg (fun text : String => Text.pieces (· == '\n') text.toList) heq
  simp only [pieces_script h, pieces_script h'] at hlines
  refine scriptLines_inj h ht h' ht' ?_
  exact (List.map_inj_right fun _ _ => String.toList_inj.1).1 (List.append_cancel_right hlines)

end Program

end PageCompiler
