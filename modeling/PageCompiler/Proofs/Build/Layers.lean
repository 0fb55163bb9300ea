import PageCompiler.Build.Run
import PageCompiler.Proofs.Keyed
import PageCompiler.Proofs.Results

/-!
# Layers of settings

A field of the settings that a variable can set takes its value from one of three layers : what is
given, the environment, and the environment file (`rawValue`). The layers differ in what counts as
absent. A given null is none. A variable that is set hides the one of the file even if it is set to
nothing, and then sets nothing itself.

Loading goes through the layers from the bottom. The file adds the variables that the environment
does not have (`get?_of_load`), the fields are read off the environment
(`get?_fieldsOfEnvironment`), and what is given is put over them (`get?_layered`).
-/

namespace PageCompiler

/-! ## Variables of a file -/

namespace Keyed

variable {α : Type}

theorem get?_of_not_mem {entries : Keyed α} {key : String} (h : key ∉ entries.keys) :
    entries.get? key = none := by
  cases hget : entries.get? key with
  | none => rfl
  | some value => exact absurd (List.mem_map_of_mem (mem_of_get? hget)) h

end Keyed

namespace EnvironmentFile

theorem nodup_keys_resolve (environment : Environment) : ∀ (bindings : List Binding)
    {known : Keyed (Option String)}, known.keys.Nodup →
      (resolve environment known bindings).keys.Nodup
  | [], _, h => h
  | _ :: bindings, _, h => nodup_keys_resolve environment bindings (Keyed.nodup_keys_put h _ _)

/-- A variable of the environment keeps its value, and any other gets the one that the file has for
it. -/
theorem get?_of_load : ∀ {values : Keyed (Option String)} {environment later : Environment},
    values.keys.Nodup → load environment values = .ok later → ∀ name,
      later.get? name = (environment.get? name).or (values.get? name).join
  | [], _, _, _, h, name => by
    obtain rfl := Except.ok.inj h
    exact Option.or_none.symm
  | (held, none) :: rest, environment, later, hn, h, name => by
    have hrest : load environment rest = .ok later := h
    have ih := get?_of_load (List.nodup_cons.1 hn).2 hrest name
    rw [Keyed.get?]
    split
    · next hname =>
      have hgone : Keyed.get? rest name = none :=
        Keyed.get?_of_not_mem (hname ▸ (List.nodup_cons.1 hn).1)
      rw [ih, hgone]
      rfl
    · exact ih
  | (held, some value) :: rest, environment, later, hn, h, name => by
    rw [load] at h
    split at h
    · next hhas =>
      have ih := get?_of_load (List.nodup_cons.1 hn).2 h name
      rw [Keyed.get?]
      split
      · next hname =>
        obtain ⟨known, hknown⟩ := Option.isSome_iff_exists.1 hhas
        rw [ih, ← hname, hknown]
        rfl
      · exact ih
    · next hhas =>
      split at h
      · cases h
      · have ih := get?_of_load (List.nodup_cons.1 hn).2 h name
        rw [Keyed.get?_put] at ih
        rw [Keyed.get?, ih]
        split
        · next hname =>
          have hnew : environment.get? name = none := by
            rw [← hname]
            simpa [Keyed.has] using hhas
          rw [hnew]
          rfl
        · rfl

/-- If a variable of the file is refused, then one that the environment does not have. -/
theorem exists_refused_of_load : ∀ {values : Keyed (Option String)} {environment : Environment}
    {refusal : Refusal}, load environment values = .error refusal →
      ∃ name value, (name, some value) ∈ values ∧ environment.get? name = none ∧
        refusal? name value = some refusal
  | (held, none) :: rest, environment, refusal, h => by
    have hrest : load environment rest = .error refusal := h
    obtain ⟨name, value, hmem, hfound⟩ := exists_refused_of_load hrest
    exact ⟨name, value, List.mem_cons_of_mem _ hmem, hfound⟩
  | (held, some value) :: rest, environment, refusal, h => by
    rw [load] at h
    split at h
    · obtain ⟨name, value, hmem, hfound⟩ := exists_refused_of_load h
      exact ⟨name, value, List.mem_cons_of_mem _ hmem, hfound⟩
    · next hhas =>
      split at h
      · next hrefused =>
        obtain rfl := Except.error.inj h
        exact ⟨held, value, List.mem_cons_self, by simpa [Keyed.has] using hhas, hrefused⟩
      · obtain ⟨name, value, hmem, hnone, hrefused⟩ := exists_refused_of_load h
        rw [Keyed.get?_put] at hnone
        split at hnone
        · cases hnone
        · exact ⟨name, value, List.mem_cons_of_mem _ hmem, hnone, hrefused⟩

end EnvironmentFile

namespace Build

open EnvironmentFile (resolve readBindings)

/-- The values that the nearest environment file gives to variables, none if there is no file or
files are turned off. -/
def fileValues (disk : Disk) (environment : Environment) :
    Except Text.Utf8Error (Keyed (Option String)) :=
  if EnvironmentFile.isDisabled environment then .ok []
  else
    match environmentFile? disk disk.current with
    | none => .ok []
    | some bytes =>
      (fun text => resolve environment [] (readBindings text).1) <$> Text.readText bytes

theorem nodup_keys_fileValues {disk : Disk} {environment : Environment}
    {values : Keyed (Option String)} (h : fileValues disk environment = .ok values) :
    values.keys.Nodup := by
  unfold fileValues at h
  split at h
  · obtain rfl := Except.ok.inj h
    exact List.nodup_nil
  · split at h
    · obtain rfl := Except.ok.inj h
      exact List.nodup_nil
    · obtain ⟨text, -, rfl⟩ := map_eq_ok h
      exact EnvironmentFile.nodup_keys_resolve environment _ List.nodup_nil

theorem result_loadEnvironment {disk : Disk} {environment : Environment}
    {values : Keyed (Option String)} (h : fileValues disk environment = .ok values) :
    (loadEnvironment disk environment).result =
      (EnvironmentFile.load environment values).mapError .environment := by
  unfold fileValues at h
  unfold loadEnvironment
  split at h
  · next hdisabled =>
    obtain rfl := Except.ok.inj h
    rw [if_pos hdisabled]
    rfl
  · next henabled =>
    rw [if_neg henabled]
    cases hfile : environmentFile? disk disk.current with
    | none =>
      simp only [hfile] at h
      obtain rfl := Except.ok.inj h
      rfl
    | some bytes =>
      simp only [hfile] at h
      obtain ⟨text, htext, rfl⟩ := map_eq_ok h
      simp only [htext]

/-! ## Fields -/

/-- What a variable with a value sets. -/
def filled (value : String) : Option Json :=
  if value = "" then none else some (.text value)

/-- A value, if it is not null. -/
def notNull? : Json → Option Json
  | .null => none
  | value => some value

/-- What is given for a field. Null is nothing. -/
def given? (given : Keyed Json) (field : String) : Option Json :=
  (given.get? field).bind notNull?

/-- The value for a field, from what is given, the environment and the values of an environment
file. -/
def rawValue (given : Keyed Json) (environment : Environment) (values : Keyed (Option String))
    (variableName field : String) : Option Json :=
  match given? given field with
  | some value => some value
  | none =>
    match environment.get? variableName with
    | some value => filled value
    | none => (values.get? variableName).join.bind filled

namespace Settings

theorem fieldsOfEnvironment_eq (environment : Environment) :
    fieldsOfEnvironment environment = fieldVariables.filterMap fun pair =>
      ((environment.get? pair.1).bind filled).map (pair.2, ·) := by
  refine congrArg (List.filterMap · fieldVariables) (funext fun (variableName, field) => ?_)
  cases hget : environment.get? variableName with
  | none => simp [hget]
  | some value => by_cases h : value = "" <;> simp [hget, filled, h]

/-- Where every field has one variable, it has the value that this one sets. -/
theorem get?_filterMap (value? : String → Option Json) {variableName field : String} :
    ∀ {pairs : List (String × String)}, (pairs.map Prod.snd).Nodup → (variableName, field) ∈ pairs →
      Keyed.get? (pairs.filterMap fun pair => (value? pair.1).map (pair.2, ·)) field =
        value? variableName
  | (other, held) :: pairs, hn, hmem => by
    obtain ⟨hheld, hrest⟩ := List.nodup_cons.1 hn
    rw [List.filterMap_cons]
    rcases List.mem_cons.1 hmem with heq | hmem
    · obtain ⟨rfl, rfl⟩ := Prod.mk.inj heq
      cases hvalue : value? variableName with
      | some value =>
        dsimp only [Option.map_some]
        rw [Keyed.get?, if_pos rfl]
      | none =>
        refine Keyed.get?_of_not_mem fun hkey => hheld ?_
        obtain ⟨entry, hentry, rfl⟩ := List.mem_map.1 hkey
        obtain ⟨pair, hpair, hset⟩ := List.mem_filterMap.1 hentry
        obtain ⟨value, -, rfl⟩ := Option.map_eq_some_iff.1 hset
        exact List.mem_map.2 ⟨pair, hpair, rfl⟩
    · have hne : held ≠ field := by
        rintro rfl
        exact hheld (List.mem_map.2 ⟨_, hmem, rfl⟩)
      have ih := get?_filterMap value? hrest hmem
      cases value? other with
      | none => exact ih
      | some value =>
        dsimp only [Option.map_some]
        rw [Keyed.get?, if_neg hne]
        exact ih

/-- A field has the value that its variable sets, if it sets one. -/
theorem get?_fieldsOfEnvironment (environment : Environment) {variableName field : String}
    (h : (variableName, field) ∈ fieldVariables) :
    (fieldsOfEnvironment environment).get? field =
      (environment.get? variableName).bind filled := by
  rw [fieldsOfEnvironment_eq]
  exact get?_filterMap (fun name => (environment.get? name).bind filled) (by decide) h

theorem get?_fieldsOfEnvironment_of_not_mem (environment : Environment) {field : String}
    (h : field ∉ fieldVariables.map Prod.snd) :
    (fieldsOfEnvironment environment).get? field = none := by
  refine Keyed.get?_of_not_mem fun hmem => h ?_
  rw [fieldsOfEnvironment_eq] at hmem
  obtain ⟨entry, hentry, rfl⟩ := List.mem_map.1 hmem
  obtain ⟨pair, hpair, hset⟩ := List.mem_filterMap.1 hentry
  obtain ⟨value, -, rfl⟩ := Option.map_eq_some_iff.1 hset
  exact List.mem_map_of_mem hpair

/-- Putting something over fields hides one of them, unless it is null. -/
theorem get?_over (fields : Keyed Json) (held : String) (value : Json) (field : String) :
    Keyed.get? (match value with
      | .null => fields
      | value => fields.put held value) field =
        (if held = field then notNull? value else none).or (fields.get? field) := by
  cases value with
  | null => simp [notNull?]
  | _ =>
    dsimp only
    rw [Keyed.get?_put]
    split <;> rfl

/-- What is given is put over the fields that the environment sets. -/
theorem get?_layered (environment : Environment) {given : Keyed Json} (hn : given.keys.Nodup)
    (field : String) :
    (layered environment given).get? field =
      (given? given field).or ((fieldsOfEnvironment environment).get? field) := by
  unfold layered
  generalize fieldsOfEnvironment environment = fields
  induction given generalizing fields with
  | nil => rfl
  | cons entry rest ih =>
    obtain ⟨held, value⟩ := entry
    obtain ⟨hheld, hrest⟩ := List.nodup_cons.1 hn
    rw [List.foldl_cons, ih hrest]
    refine (congrArg (given? rest field).or (get?_over fields held value field)).trans ?_
    rw [given?, given?, Keyed.get?]
    split
    · next hname =>
      have hgone : Keyed.get? rest field = none := Keyed.get?_of_not_mem (hname ▸ hheld)
      rw [hgone]
      rfl
    · rfl

end Settings

/-! ## Settings -/

theorem optional_eq_ok {α : Type} {name : String} {default a : α} {check : Json → Json.Checked α}
    {fields : Keyed Json} (h : Json.optional name default check fields = .ok a) :
    (fields.get? name = none ∧ a = default) ∨
      ∃ value, fields.get? name = some value ∧ check value = .ok a := by
  unfold Json.optional at h
  split at h
  · next value hget =>
    cases hcheck : check value with
    | error issues =>
      rw [hcheck] at h
      cases h
    | ok found =>
      rw [hcheck] at h
      exact .inr ⟨value, hget, hcheck.trans h⟩
  · next hget => exact .inl ⟨hget, (Except.ok.inj h).symm⟩

theorem both_eq_ok {α β : Type} {first : Json.Checked α} {second : Json.Checked β} {a : α} {b : β}
    (h : first.both second = .ok (a, b)) : first = .ok a ∧ second = .ok b := by
  unfold Json.Checked.both at h
  split at h
  · obtain ⟨rfl, rfl⟩ := Prod.mk.inj (Except.ok.inj h)
    exact ⟨rfl, rfl⟩
  all_goals cases h

theorem parts_of_ofFields {fields : Keyed Json} {settings : Settings}
    (h : Settings.ofFields fields = .ok settings) :
    Json.optional "target" .js Target.ofJson fields = .ok settings.target ∧
      Json.optional "output" none Json.asText? fields = .ok settings.output := by
  obtain ⟨⟨source, target, output, rest⟩, hall, rfl⟩ := map_eq_ok h
  obtain ⟨-, hall⟩ := both_eq_ok hall
  obtain ⟨htarget, hall⟩ := both_eq_ok hall
  exact ⟨htarget, (both_eq_ok hall).1⟩

/-- The name of a target is the only value that is taken for it. -/
theorem eq_text_of_ofJson {value : Json} {target : Target} (h : Target.ofJson value = .ok target) :
    value = .text target.name := by
  unfold Target.ofJson at h
  split at h
  · obtain rfl := Except.ok.inj h
    rfl
  · obtain rfl := Except.ok.inj h
    rfl
  · cases h

theorem eq_ofText?_of_asText? {value : Json} {output : Option String}
    (h : Json.asText? value = .ok output) : value = Json.ofText? output := by
  unfold Json.asText? at h
  split at h
  · obtain rfl := Except.ok.inj h
    rfl
  · obtain ⟨text, htext, rfl⟩ := map_eq_ok h
    unfold Json.asText at htext
    split at htext
    · obtain rfl := Except.ok.inj htext
      rfl
    · cases htext

theorem defaultOutput_ne_empty (target : Target) : target.defaultOutput ≠ "" := by
  cases target <;> decide

/-- The target is the one that is named, or a script. -/
theorem target_of_ofFields {fields : Keyed Json} {settings : Settings}
    (h : Settings.ofFields fields = .ok settings) :
    fields.get? "target" = some (.text settings.target.name) ∨
      fields.get? "target" = none ∧ settings.target = .js := by
  rcases optional_eq_ok (parts_of_ofFields h).1 with hnone | ⟨value, hget, hcheck⟩
  · exact .inr hnone
  · exact .inl (eq_text_of_ofJson hcheck ▸ hget)

/-- The output path is the output that is named, or the default of the target. -/
theorem outputPath_of_ofFields {fields : Keyed Json} {settings : Settings}
    (h : Settings.ofFields fields = .ok settings) (hnull : fields.get? "output" ≠ some .null) :
    (∃ output, output ≠ "" ∧ settings.outputPath = output ∧
        fields.get? "output" = some (.text output)) ∨
      settings.outputPath = settings.target.defaultOutput ∧
        (fields.get? "output" = none ∨ fields.get? "output" = some (.text "")) := by
  rw [Settings.outputPath]
  rcases optional_eq_ok (parts_of_ofFields h).2 with ⟨hget, hnone⟩ | ⟨value, hget, hcheck⟩
  · rw [hnone]
    exact .inr ⟨rfl, .inl hget⟩
  · obtain rfl := eq_ofText?_of_asText? hcheck
    cases houtput : settings.output with
    | none =>
      rw [houtput] at hget
      exact absurd hget hnull
    | some output =>
      rw [houtput] at hget
      by_cases hempty : output = ""
      · exact .inr ⟨if_pos hempty, .inr (hempty ▸ hget)⟩
      · exact .inl ⟨output, hempty, if_neg hempty, hget⟩

/-- No layer gives null. -/
theorem rawValue_ne_null (given : Keyed Json) (environment : Environment)
    (values : Keyed (Option String)) (variableName field : String) :
    rawValue given environment values variableName field ≠ some .null := by
  have hfilled : ∀ value, filled value ≠ some .null := by
    intro value h
    unfold filled at h
    split at h <;> cases h
  unfold rawValue
  split
  · next value hgiven =>
    intro hnull
    obtain ⟨found, -, hfound⟩ := Option.bind_eq_some_iff.1 (hgiven.trans hnull)
    cases found <;> cases hfound
  · split
    · exact hfilled _
    · intro h
      obtain ⟨value, -, hvalue⟩ := Option.bind_eq_some_iff.1 h
      exact hfilled value hvalue

/-- The fields that are checked are those of the layers. -/
theorem get?_layered_of_load {environment later : Environment} {given : Keyed Json}
    {values : Keyed (Option String)} (hgiven : given.keys.Nodup) (hvalues : values.keys.Nodup)
    (hload : EnvironmentFile.load environment values = .ok later) {variableName field : String}
    (h : (variableName, field) ∈ Settings.fieldVariables) :
    (Settings.layered later given).get? field =
      rawValue given environment values variableName field := by
  rw [Settings.get?_layered later hgiven, Settings.get?_fieldsOfEnvironment later h,
    EnvironmentFile.get?_of_load hvalues hload, rawValue]
  cases given? given field with
  | some value => rfl
  | none =>
    cases environment.get? variableName with
    | some value => rfl
    | none => rfl

/-- Each field that a variable can set is checked with the value of the first layer that has one,
and the others with what is given, unless the file holds a variable that cannot be set. The output
path is the value for the output if that is not empty, and else the default of the target that the
settings have, wherever it comes from. -/
theorem settings_of_layers {disk : Disk} {environment : Environment} {given : Keyed Json}
    (hgiven : given.keys.Nodup) {values : Keyed (Option String)}
    (hvalues : fileValues disk environment = .ok values) :
    (∃ name value refusal, (name, some value) ∈ values ∧ environment.get? name = none ∧
      EnvironmentFile.refusal? name value = some refusal ∧
        (loadSettings disk environment given).result = .error (.environment refusal)) ∨
    ∃ fields : Keyed Json,
      (loadSettings disk environment given).result =
        (Settings.ofFields fields).mapError (fun issues => .build (.invalidSettings issues)) ∧
      (∀ variableName field, (variableName, field) ∈ Settings.fieldVariables →
        fields.get? field = rawValue given environment values variableName field) ∧
      (∀ field, field ∉ Settings.fieldVariables.map Prod.snd →
        fields.get? field = given? given field) ∧
      ∀ settings, (loadSettings disk environment given).result = .ok settings →
        (rawValue given environment values "SLPC_TARGET" "target" =
            some (.text settings.target.name) ∨
          rawValue given environment values "SLPC_TARGET" "target" = none ∧
            settings.target = .js) ∧
        settings.outputPath ≠ "" ∧
        ((∃ output, output ≠ "" ∧ settings.outputPath = output ∧
            rawValue given environment values "SLPC_OUTPUT" "output" = some (.text output)) ∨
          settings.outputPath = settings.target.defaultOutput ∧
            (rawValue given environment values "SLPC_OUTPUT" "output" = none ∨
              rawValue given environment values "SLPC_OUTPUT" "output" = some (.text ""))) := by
  have hkeys := nodup_keys_fileValues hvalues
  have hloaded := result_loadEnvironment hvalues
  cases hload : EnvironmentFile.load environment values with
  | error refusal =>
    rw [hload] at hloaded
    obtain ⟨name, value, hmem, hnone, hrefused⟩ := EnvironmentFile.exists_refused_of_load hload
    refine .inl ⟨name, value, refusal, hmem, hnone, hrefused, ?_⟩
    rw [loadSettings, Said.andThen, hloaded]
    rfl
  | ok later =>
    have hlater : (loadEnvironment disk environment).result = .ok later := by
      rw [hloaded, hload]
      rfl
    have hresult : (loadSettings disk environment given).result =
        (Settings.ofFields (Settings.layered later given)).mapError
          (fun issues => .build (.invalidSettings issues)) := by
      rw [loadSettings, Said.andThen, hlater]
      dsimp only
      cases Settings.ofFields (Settings.layered later given) <;> rfl
    have hfield : ∀ variableName field, (variableName, field) ∈ Settings.fieldVariables →
        (Settings.layered later given).get? field =
          rawValue given environment values variableName field :=
      fun _ _ hmem => get?_layered_of_load hgiven hkeys hload hmem
    refine .inr ⟨_, hresult, hfield, fun field hno => ?_, fun settings hsettings => ?_⟩
    · rw [Settings.get?_layered later hgiven,
        Settings.get?_fieldsOfEnvironment_of_not_mem later hno, Option.or_none]
    have hread := mapError_eq_ok (hresult ▸ hsettings)
    have htarget := target_of_ofFields hread
    have houtput := hfield "SLPC_OUTPUT" "output" (by decide)
    have hpath := outputPath_of_ofFields hread
      (houtput ▸ rawValue_ne_null given environment values _ _)
    rw [hfield "SLPC_TARGET" "target" (by decide)] at htarget
    rw [houtput] at hpath
    refine ⟨htarget, ?_, hpath⟩
    rcases hpath with ⟨output, hne, houtput, -⟩ | ⟨hdefault, -⟩
    · rwa [houtput]
    · rw [hdefault]
      exact defaultOutput_ne_empty settings.target

/-- An environment file with a value for each field. -/
def layersFile : String :=
  "SLPC_TARGET=native\nSLPC_OUTPUT=out.json\nSLPC_EXPOSED_NAME=file\nSLPC_REGISTRY=r.json\n"

/-- A disk with that file above the current directory. -/
def layersDisk : Disk :=
  ⟨[([".env"], .file (Disk.encode layersFile)), (["site"], .directory)], ["site"]⟩

/-- An output that is set to nothing, and an exposed name. -/
def layersEnvironment : Environment :=
  [("SLPC_OUTPUT", ""), ("SLPC_EXPOSED_NAME", "shop")]

/-- An exposed name that is given, and a manifest that is not. -/
def layersGiven : Keyed Json :=
  [("registry", .null), ("exposed_name", .text "top")]

theorem settings_of_layers_site :
    layersGiven.keys.Nodup ∧
    ∃ values, fileValues layersDisk layersEnvironment = .ok values ∧
      ∃ settings, (loadSettings layersDisk layersEnvironment layersGiven).result = .ok settings ∧
        rawValue layersGiven layersEnvironment values "SLPC_OUTPUT" "output" = none ∧
        settings.outputPath = "bin/index.json" ∧ settings.exposedName = some "top" ∧
        settings.registry = some (.ofText "r.json") := by
  have hgiven : layersGiven.keys.Nodup := by decide
  have hfile : ((fileValues layersDisk layersEnvironment).toOption.any fun values =>
      values.keys == ["SLPC_TARGET", "SLPC_OUTPUT", "SLPC_EXPOSED_NAME", "SLPC_REGISTRY"]) =
        true := by
    decide +kernel
  have hrun : ((loadSettings layersDisk layersEnvironment layersGiven).result.toOption.any
      fun settings => decide (settings.target = .native ∧ settings.exposedName = some "top" ∧
        settings.registry = some (.ofText "r.json"))) = true := by
    decide +kernel
  obtain ⟨values, hvalues, -⟩ := exists_ok_of_any hfile
  obtain ⟨settings, hsettings, hresult⟩ := exists_ok_of_any hrun
  obtain ⟨htarget, hname, hregistry⟩ := of_decide_eq_true hresult
  have hhidden : rawValue layersGiven layersEnvironment values "SLPC_OUTPUT" "output" = none := rfl
  refine ⟨hgiven, values, hvalues, settings, hsettings, hhidden, ?_, hname, hregistry⟩
  rcases settings_of_layers hgiven hvalues with
    ⟨_, _, _, -, -, -, hfailed⟩ | ⟨fields, -, -, -, hall⟩
  · rw [hsettings] at hfailed
    cases hfailed
  · obtain ⟨-, -, ⟨output, -, -, hout⟩ | ⟨hdefault, -⟩⟩ := hall settings hsettings
    · rw [hhidden] at hout
      cases hout
    · rw [hdefault, htarget]
      rfl

end Build

end PageCompiler
