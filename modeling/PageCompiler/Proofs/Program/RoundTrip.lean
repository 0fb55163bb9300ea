import PageCompiler.Program.Basic
import PageCompiler.Proofs.Json.RoundTrip
import PageCompiler.Proofs.Keyed

/-!
# Programs as JSON texts

Reading the JSON text of a program gives the program back, at any indentation (`ofText_toText`). The
mappings of a program hold one value under each name (`IsKeyed`), which is what a record can keep;
then the entries come back in the order in which they stand.

The text holds nothing but records, lists, texts and null, so it is read as the JSON value that was
printed. The checks then undo what made that value of the program : each kind of action is checked
by the fields it was given.
-/

namespace PageCompiler

/-! ## Checks that undo -/

namespace Json

theorem items_map {α : Type} {check : Json → Checked α} {toJson : α → Json} :
    ∀ {values : List α} (index : Nat), (∀ value ∈ values, check (toJson value) = .ok value) →
      Checked.items check index (values.map toJson) = .ok values
  | [], _, _ => rfl
  | value :: rest, index, h => by
    have ih := items_map (index + 1) fun other ho => h other (List.mem_cons_of_mem _ ho)
    rw [List.map_cons, Checked.items, h value List.mem_cons_self, ih]
    rfl

theorem asList_map {α : Type} {check : Json → Checked α} {toJson : α → Json} {values : List α}
    (h : ∀ value ∈ values, check (toJson value) = .ok value) :
    asList check (.list (values.map toJson)) = .ok values :=
  items_map 0 h

theorem entries_texts : ∀ entries : Keyed String,
    Checked.entries asText (entries.map fun entry => (entry.1, text entry.2)) = .ok entries
  | [] => rfl
  | (key, value) :: rest => by
    rw [List.map_cons, Checked.entries, entries_texts rest]
    rfl

theorem asTexts_ofTexts {entries : Keyed String} (h : entries.keys.Nodup) :
    asTexts (ofTexts entries) = .ok entries := by
  rw [ofTexts, asTexts, entries_texts]
  exact congrArg Except.ok (Keyed.ofPairs_of_nodup h)

theorem asText_text (value : String) : asText (text value) = .ok value :=
  rfl

theorem asText?_ofText? (value : Option String) : asText? (ofText? value) = .ok value := by
  cases value <;> rfl

section

variable {α : Type} {fields : Keyed Json} {name : String} {value : Json} {a : α}

theorem required_of_get? {check : Json → Checked α} (hget : fields.get? name = some value)
    (hcheck : check value = .ok a) : required name check fields = .ok a := by
  rw [required, hget]
  simp only [hcheck]
  rfl

theorem optional_of_get? {default : α} {check : Json → Checked α}
    (hget : fields.get? name = some value) (hcheck : check value = .ok a) :
    Json.optional name default check fields = .ok a := by
  rw [Json.optional, hget]
  simp only [hcheck]
  rfl

/-- A record with distinct names is checked as the kind that it names. -/
theorem asKind_record {origin : Origin} {tag kind : String}
    {kinds : List (String × (Keyed Json → Checked α))} {check : Keyed Json → Checked α}
    (hn : fields.keys.Nodup) (hget : fields.get? tag = some (.text kind))
    (hkind : kinds.lookup kind = some check) (hcheck : check fields = .ok a) :
    asKind origin tag kinds (.record fields) = .ok a := by
  rw [asKind, Keyed.ofPairs_of_nodup hn]
  simp only [hget, hkind, hcheck]
  rfl

end

/-! ## Values made of texts -/

theorem textual_ofTexts {limit : Nat} (entries : Keyed String) :
    Textual (limit + 1) (ofTexts entries) := by
  refine .record fun entry hm => ?_
  obtain ⟨origin, -, rfl⟩ := List.mem_map.1 hm
  exact .text _

theorem textual_ofText? {limit : Nat} (value : Option String) :
    Textual limit (ofText? value) := by
  cases value with
  | none => exact .null
  | some value => exact .text value

end Json

open Json

/-! ## Actions -/

namespace Action

/-- The arguments that an action holds have one value under each name. -/
def IsKeyed : Action → Prop
  | holdArguments _ entries => entries.keys.Nodup
  | _ => True

theorem textual_toJson {limit : Nat} (action : Action) : Textual (limit + 2) action.toJson := by
  refine .record (List.forall_mem_cons.2 ⟨.text _, ?_⟩)
  cases action with
  | use name => exact List.forall_mem_singleton.2 (.text _)
  | holdArguments variableName entries =>
    exact List.forall_mem_cons.2 ⟨.text _, List.forall_mem_singleton.2 (textual_ofTexts _)⟩
  | register name argumentsVariable classTag =>
    exact List.forall_mem_cons.2 ⟨.text _, List.forall_mem_cons.2
      ⟨textual_ofText? _, List.forall_mem_singleton.2 (textual_ofText? _)⟩⟩
  | embed target literal =>
    exact List.forall_mem_cons.2 ⟨.text _, List.forall_mem_singleton.2 (.text _)⟩
  | launchOnLoad => exact fun _ hm => absurd hm List.not_mem_nil
  | launch => exact fun _ hm => absurd hm List.not_mem_nil
  | startInit => exact fun _ hm => absurd hm List.not_mem_nil

theorem nodup_keys_fields (action : Action) :
    (Keyed.keys (("type", .text action.kind) :: action.fields)).Nodup := by
  cases action <;> simp [Keyed.keys, fields]

/-- Every kind of action is checked by the fields it was given. -/
theorem ofJson_toJson {action : Action} (h : action.IsKeyed) :
    ofJson action.toJson = .ok action := by
  have hn := nodup_keys_fields action
  cases action with
  | use name =>
    refine asKind_record hn rfl rfl ?_
    rw [required_of_get? rfl (asText_text name)]
    rfl
  | holdArguments variableName entries =>
    refine asKind_record hn rfl rfl ?_
    rw [required_of_get? rfl (asText_text variableName),
      optional_of_get? rfl (asTexts_ofTexts h)]
    rfl
  | register name argumentsVariable classTag =>
    refine asKind_record hn rfl rfl ?_
    rw [required_of_get? rfl (asText_text name),
      optional_of_get? rfl (asText?_ofText? argumentsVariable),
      optional_of_get? rfl (asText?_ofText? classTag)]
    rfl
  | embed target literal =>
    refine asKind_record hn rfl rfl ?_
    rw [optional_of_get? rfl (asText_text target), required_of_get? rfl (asText_text literal)]
    rfl
  | launchOnLoad => exact asKind_record hn rfl rfl rfl
  | launch => exact asKind_record hn rfl rfl rfl
  | startInit => exact asKind_record hn rfl rfl rfl

end Action

/-! ## Programs -/

namespace Program

/-- The mappings of a program have one value under each name. -/
structure IsKeyed (program : Program) : Prop where
  parameters : program.parameters.keys.Nodup
  actions : ∀ action ∈ program.actions, action.IsKeyed

theorem textual_toJson {limit : Nat} (program : Program) :
    Textual (limit + 4) program.toJson := by
  refine .record (List.forall_mem_cons.2 ⟨?_, List.forall_mem_cons.2 ⟨textual_ofTexts _,
    List.forall_mem_singleton.2 (textual_ofText? _)⟩⟩)
  refine .list fun item hm => ?_
  obtain ⟨action, -, rfl⟩ := List.mem_map.1 hm
  exact action.textual_toJson

/-- The checks undo the JSON form of a program. -/
theorem ofJson_toJson {program : Program} (h : program.IsKeyed) :
    ofJson program.toJson = .ok program := by
  have hactions : asList Action.ofJson (.list (program.actions.map Action.toJson)) =
      .ok program.actions :=
    asList_map fun action hm => Action.ofJson_toJson (h.actions action hm)
  rw [toJson, ofJson, asModel, Keyed.ofPairs_of_nodup (by simp [Keyed.keys]),
    optional_of_get? rfl hactions, optional_of_get? rfl (asTexts_ofTexts h.parameters),
    optional_of_get? rfl (asText?_ofText? program.exposedName)]
  rfl

/-- The JSON text of a program is read back as that program, at any indentation. -/
theorem ofText_toText {program : Program} (h : program.IsKeyed) (indent : Nat) :
    ofText (program.toText indent) = .ok program := by
  have hread : read (196 + 4) (program.toText indent) = .ok program.toJson :=
    read_indented program.textual_toJson indent
  rw [ofText, maxDepth, hread]
  exact ofJson_toJson h

/-- A program with every kind of action and with texts that have to be escaped. -/
def fullProgram : Program :=
  ⟨[.use "ui.Box", .holdArguments "args0" [("data-b", "\"\\\x00\n"), ("data-a", "")],
    .register "ui.Box" (some "args0") (some "Box"), .register "app.Store" none none,
    .embed "body" "\"<p>\"", .launchOnLoad, .launch, .startInit],
   [("lang", "é😀"), ("app", "\x7f")], none⟩

theorem ofText_toText_full : fullProgram.IsKeyed ∧
    ofText (fullProgram.toText 0) = .ok fullProgram ∧
      ofText (fullProgram.toText 3) = .ok fullProgram := by
  have hkeyed : fullProgram.IsKeyed := by
    constructor <;> simp [fullProgram, Action.IsKeyed, Keyed.keys]
  exact ⟨hkeyed, ofText_toText hkeyed 0, ofText_toText hkeyed 3⟩

end Program

end PageCompiler
