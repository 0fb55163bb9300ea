import Mathlib.Data.Bool.AllAny
import PageCompiler.Proofs.Json.QuotedText

/-!
# Indented JSON read back

What the indented form spells is read back as the value that was printed, at any indentation
(`read_indented`). This is shown of values made of texts, truth values and null (`Textual`); their
depth has to be within the reader's limit.

The induction is on the value : however much follows, the reader takes the characters of a value for
that value and stops behind them (`ReadsAs`). The fuel is enough since every list, record, item and
entry takes a character more than what it holds.
-/

namespace PageCompiler.Json

/-! ## Blanks -/

theorem skipSpace_append {blanks : List Char} (hb : ∀ c ∈ blanks, isSpace c = true)
    (rest : List Char) : skipSpace (blanks ++ rest) = skipSpace rest :=
  List.dropWhile_append_of_pos hb

theorem skipSpace_cons {c : Char} (hc : isSpace c = false) (rest : List Char) :
    skipSpace (c :: rest) = c :: rest :=
  List.dropWhile_cons_of_neg (by simp [hc])

theorem isSpace_breakLine (indent depth : Nat) :
    ∀ c ∈ (breakLine indent depth).toList, isSpace c = true := by
  intro c hc
  rw [breakLine, String.toList_ofList] at hc
  rcases List.mem_cons.1 hc with rfl | hc
  · rfl
  · rw [(List.mem_replicate.1 hc).2]
    rfl

/-! ## Values, items and entries -/

/-- The characters with which values begin. -/
def valueStarts : List Char :=
  ['n', 't', 'f', '"', '[', '\x7b']

/-- The reader takes these characters for a value, whatever follows. -/
structure ReadsAs (manner : Manner) (depth : Nat) (chars : List Char) (value : Json) : Prop where
  begins : ∃ c ∈ valueStarts, ∃ rest, chars = c :: rest
  reads : ∀ {fuel : Nat} (rest : List Char), chars.length ≤ fuel →
    readValue manner fuel depth (chars ++ rest) = .ok (value, rest)

variable {manner : Manner} {depth : Nat} {blanks ending : List Char}

theorem valueStarts_spec : ∀ c ∈ valueStarts, isSpace c = false ∧ c ≠ ']' ∧ c ≠ '\uFEFF' :=
  List.all_iff_forall_prop.1 (by decide)

theorem ReadsAs.skipSpace_eq {chars : List Char} {value : Json}
    (h : ReadsAs manner depth chars value) (rest : List Char) :
    skipSpace (chars ++ rest) = chars ++ rest := by
  obtain ⟨c, hc, more, rfl⟩ := h.begins
  exact skipSpace_cons (valueStarts_spec c hc).1 _

/-! ## Items -/

theorem readItems_last {fuel : Nat} {chars rest : List Char} {item : Json}
    (he : ∀ c ∈ ending, isSpace c = true)
    (h : readValue manner fuel depth chars = .ok (item, ending ++ ']' :: rest)) :
    readItems manner (fuel + 1) depth chars = .ok ([item], rest) := by
  have hspace : skipSpace (ending ++ ']' :: rest) = ']' :: rest :=
    (skipSpace_append he _).trans (skipSpace_cons (by rfl) _)
  rw [readItems, h]
  simp only [hspace]

theorem readItems_comma {fuel : Nat} {chars more : List Char} {item : Json}
    (h : readValue manner fuel depth chars = .ok (item, ',' :: more)) :
    readItems manner (fuel + 1) depth chars =
      (readItems manner fuel depth (skipSpace more)).map fun r => (item :: r.1, r.2) := by
  have hspace : skipSpace (',' :: more) = ',' :: more := skipSpace_cons (by rfl) _
  rw [readItems, h]
  simp only [hspace]

/-- Items behind one another, each read as its value, are read up to the bracket. -/
theorem readItems_joined (hb : ∀ c ∈ blanks, isSpace c = true)
    (he : ∀ c ∈ ending, isSpace c = true) {spell : Json → List Char} (rest : List Char)
    (items : List Json) {item : Json} {fuel : Nat}
    (h : ∀ value ∈ item :: items, ReadsAs manner depth (spell value) value)
    (hfuel : (spell item ++
      items.flatMap fun value => ',' :: (blanks ++ spell value)).length < fuel) :
    readItems manner fuel depth
      (spell item ++ ((items.flatMap fun value => ',' :: (blanks ++ spell value)) ++
        (ending ++ ']' :: rest))) = .ok (item :: items, rest) := by
  induction items generalizing item fuel with
  | nil =>
    rw [List.length_append] at hfuel
    obtain ⟨fuel, rfl⟩ : ∃ less, fuel = less + 1 := ⟨fuel - 1, by omega⟩
    exact readItems_last he ((h item List.mem_cons_self).reads _ (by omega))
  | cons second items ih =>
    rw [List.length_append] at hfuel
    obtain ⟨fuel, rfl⟩ : ∃ less, fuel = less + 1 := ⟨fuel - 1, by omega⟩
    have hsecond := h second (List.mem_cons_of_mem _ List.mem_cons_self)
    have hless : (spell second ++
        items.flatMap fun value => ',' :: (blanks ++ spell value)).length < fuel := by
      simp only [List.flatMap_cons, List.length_append, List.length_cons] at hfuel ⊢
      omega
    have ih := ih (fun value hv => h value (List.mem_cons_of_mem _ hv)) hless
    rw [List.flatMap_cons, List.cons_append, List.cons_append, List.append_assoc, List.append_assoc,
      readItems_comma ((h item List.mem_cons_self).reads _ (by omega)), skipSpace_append hb,
      hsecond.skipSpace_eq, ih]
    rfl

/-! ## Entries -/

/-- What the reader does behind an entry : it stops behind a brace, or goes on behind a comma. -/
def readAfterEntry (manner : Manner) (fuel depth : Nat) (entry : String × Json)
    (chars : List Char) : Reading (List (String × Json)) :=
  match skipSpace chars with
  | '\x7d' :: rest => .ok ([entry], rest)
  | ',' :: rest =>
    (readEntries manner fuel depth (skipSpace rest)).map fun r => (entry :: r.1, r.2)
  | rest => .error (.comma, rest.length)

/-- The characters of an entry. -/
def entryChars (spell : Json → List Char) (entry : String × Json) : List Char :=
  (quote plainChar entry.1).toList ++ ':' :: ' ' :: spell entry.2

theorem length_value_le (spell : Json → List Char) (entry : String × Json) :
    (spell entry.2).length ≤ (entryChars spell entry).length := by
  simp only [entryChars, List.length_append, List.length_cons]
  omega

section

variable {spell : Json → List Char} {entry : String × Json} {fuel : Nat}

theorem skipSpace_entryChars (spell : Json → List Char) (entry : String × Json)
    (more : List Char) : skipSpace (entryChars spell entry ++ more) =
      entryChars spell entry ++ more := by
  rw [entryChars, toList_quote]
  exact skipSpace_cons (by rfl) _

/-- The key of an entry is read, and then its value. -/
theorem readEntries_entry (h : ReadsAs manner depth (spell entry.2) entry.2)
    (hfuel : (spell entry.2).length ≤ fuel) (more : List Char) :
    readEntries manner (fuel + 1) depth (entryChars spell entry ++ more) =
      readAfterEntry manner fuel depth entry more := by
  obtain ⟨key, value⟩ := entry
  have hkey := fun opening => readText_flatMap (spells_plainChar manner) opening
    (':' :: ' ' :: (spell value ++ more)) key.toList
  have hcolon : skipSpace (':' :: ' ' :: (spell value ++ more)) =
      ':' :: ' ' :: (spell value ++ more) := skipSpace_cons (by rfl) _
  have hvalue : skipSpace ([' '] ++ (spell value ++ more)) = spell value ++ more :=
    (skipSpace_append (List.forall_mem_singleton.2 rfl) _).trans (h.skipSpace_eq more)
  have hchars : entryChars spell (key, value) ++ more =
      '"' :: (key.toList.flatMap plainChar ++ '"' :: ':' :: ' ' :: (spell value ++ more)) := by
    rw [entryChars, toList_quote]
    simp only [List.cons_append, List.append_assoc, List.nil_append]
  rw [hchars]
  rw [List.singleton_append] at hvalue
  simp only [readEntries, hkey, hcolon, hvalue, h.reads more hfuel, String.ofList_toList]
  rfl

theorem readEntries_last (h : ReadsAs manner depth (spell entry.2) entry.2)
    (hfuel : (spell entry.2).length ≤ fuel) (he : ∀ c ∈ ending, isSpace c = true)
    (rest : List Char) :
    readEntries manner (fuel + 1) depth (entryChars spell entry ++ (ending ++ '\x7d' :: rest)) =
      .ok ([entry], rest) := by
  have hspace : skipSpace (ending ++ '\x7d' :: rest) = '\x7d' :: rest :=
    (skipSpace_append he _).trans (skipSpace_cons (by rfl) _)
  rw [readEntries_entry h hfuel, readAfterEntry]
  simp only [hspace]

theorem readEntries_comma (h : ReadsAs manner depth (spell entry.2) entry.2)
    (hfuel : (spell entry.2).length ≤ fuel) (more : List Char) :
    readEntries manner (fuel + 1) depth (entryChars spell entry ++ ',' :: more) =
      (readEntries manner fuel depth (skipSpace more)).map fun r => (entry :: r.1, r.2) := by
  have hspace : skipSpace (',' :: more) = ',' :: more := skipSpace_cons (by rfl) _
  rw [readEntries_entry h hfuel, readAfterEntry]
  simp only [hspace]

end

/-- Entries behind one another, each with a value that is read, are read up to the brace. -/
theorem readEntries_joined (hb : ∀ c ∈ blanks, isSpace c = true)
    (he : ∀ c ∈ ending, isSpace c = true) {spell : Json → List Char} (rest : List Char)
    (entries : List (String × Json)) {entry : String × Json} {fuel : Nat}
    (h : ∀ e ∈ entry :: entries, ReadsAs manner depth (spell e.2) e.2)
    (hfuel : (entryChars spell entry ++
      entries.flatMap fun e => ',' :: (blanks ++ entryChars spell e)).length < fuel) :
    readEntries manner fuel depth
      (entryChars spell entry ++
        ((entries.flatMap fun e => ',' :: (blanks ++ entryChars spell e)) ++
          (ending ++ '\x7d' :: rest))) = .ok (entry :: entries, rest) := by
  induction entries generalizing entry fuel with
  | nil =>
    have hlength := length_value_le spell entry
    rw [List.length_append] at hfuel
    obtain ⟨fuel, rfl⟩ : ∃ less, fuel = less + 1 := ⟨fuel - 1, by omega⟩
    exact readEntries_last (h entry List.mem_cons_self) (by omega) he rest
  | cons second entries ih =>
    have hlength := length_value_le spell entry
    rw [List.length_append] at hfuel
    obtain ⟨fuel, rfl⟩ : ∃ less, fuel = less + 1 := ⟨fuel - 1, by omega⟩
    have hless : (entryChars spell second ++
        entries.flatMap fun e => ',' :: (blanks ++ entryChars spell e)).length < fuel := by
      simp only [List.flatMap_cons, List.length_append, List.length_cons] at hfuel ⊢
      omega
    have ih := ih (fun e hm => h e (List.mem_cons_of_mem _ hm)) hless
    rw [List.flatMap_cons, List.cons_append, List.cons_append, List.append_assoc, List.append_assoc,
      readEntries_comma (h entry List.mem_cons_self) (by omega), skipSpace_append hb,
      skipSpace_entryChars, ih]
    rfl

/-! ## Values -/

/-- Values made of texts, truth values and null, with at most so many lists and records inside one
another. -/
inductive Textual : Nat → Json → Prop
  | null {limit : Nat} : Textual limit .null
  | bool {limit : Nat} (value : Bool) : Textual limit (.bool value)
  | text {limit : Nat} (value : String) : Textual limit (.text value)
  | list {limit : Nat} {items : List Json} (h : ∀ item ∈ items, Textual limit item) :
    Textual (limit + 1) (.list items)
  | record {limit : Nat} {entries : List (String × Json)}
    (h : ∀ entry ∈ entries, Textual limit entry.2) : Textual (limit + 1) (.record entries)

theorem indentedItems_eq_map (indent depth : Nat) : ∀ items : List Json,
    indentedItems indent depth items = items.map (indentedAt indent depth)
  | [] => rfl
  | item :: rest => by
    rw [indentedItems, indentedItems_eq_map indent depth rest, List.map_cons]

theorem indentedEntries_eq_map (indent depth : Nat) : ∀ entries : List (String × Json),
    indentedEntries indent depth entries = entries.map fun entry =>
      quote plainChar entry.1 ++ ": " ++ indentedAt indent depth entry.2
  | [] => rfl
  | (key, value) :: rest => by
    rw [indentedEntries, indentedEntries_eq_map indent depth rest, List.map_cons]

theorem toList_entry (indent depth : Nat) (entry : String × Json) :
    (quote plainChar entry.1 ++ ": " ++ indentedAt indent depth entry.2).toList =
      entryChars (fun value => (indentedAt indent depth value).toList) entry := by
  rw [entryChars, String.toList_append, String.toList_append, List.append_assoc]
  rfl

theorem toList_bracket_nil (indent depth : Nat) (opening closing : String) :
    (bracket indent depth opening closing []).toList = opening.toList ++ closing.toList := by
  rw [bracket, List.isEmpty_nil, if_pos rfl, String.toList_append]

theorem toList_bracket_cons (indent depth : Nat) (opening closing first : String)
    (rest : List String) :
    (bracket indent depth opening closing (first :: rest)).toList =
      opening.toList ++ ((breakLine indent (depth + 1)).toList ++
        (first.toList ++ ((rest.flatMap fun item =>
          ',' :: ((breakLine indent (depth + 1)).toList ++ item.toList)) ++
            ((breakLine indent depth).toList ++ closing.toList)))) := by
  rw [bracket, List.isEmpty_cons, if_neg Bool.false_ne_true]
  simp only [String.toList_append, String.toList_intercalate, List.map_cons, intercalate_cons,
    List.flatMap_map, List.append_assoc]
  rfl

section

variable {limit : Nat} (manner : Manner) (indent depth : Nat)

theorem readsAs_word {c : Char} {word : List Char} {value : Json}
    (hc : c ∈ valueStarts ∧ c ≠ '"' ∧ c ≠ '[' ∧ c ≠ '\x7b')
    (hword : ∀ rest, readWord? (c :: (word ++ rest)) = some (value, rest)) :
    ReadsAs manner limit (c :: word) value := by
  obtain ⟨hstart, hquote, hlist, hrecord⟩ := hc
  refine ⟨⟨c, hstart, word, rfl⟩, fun {fuel} rest hfuel => ?_⟩
  cases fuel with
  | zero => cases hfuel
  | succ fuel =>
    rw [List.cons_append, readValue, hword]
    · exact fun _ he => hquote (List.cons.inj he).1
    · exact fun _ he => hlist (List.cons.inj he).1
    · exact fun _ he => hrecord (List.cons.inj he).1

theorem readsAs_text (value : String) :
    ReadsAs manner limit (quote plainChar value).toList (.text value) := by
  rw [toList_quote]
  refine ⟨⟨'"', by decide, _, rfl⟩, fun {fuel} rest hfuel => ?_⟩
  cases fuel with
  | zero => cases hfuel
  | succ fuel =>
    have hread := fun opening =>
      readText_flatMap (spells_plainChar manner) opening rest value.toList
    simp only [List.cons_append, List.append_assoc, List.nil_append, readValue, hread]
    simp only [Except.map, String.ofList_toList]

theorem readValue_list {fuel : Nat} {chars rest : List Char} {items : List Json}
    (hbegins : (skipSpace chars).head? ≠ some ']')
    (h : readItems manner fuel limit (skipSpace chars) = .ok (items, rest)) :
    readValue manner (fuel + 1) (limit + 1) ('[' :: chars) = .ok (.list items, rest) := by
  rw [readValue]
  split
  · next heq => exact absurd (congrArg List.head? heq) hbegins
  · rw [if_neg (Nat.succ_ne_zero limit), Nat.add_sub_cancel, h]
    rfl

theorem readValue_record {fuel : Nat} {chars rest : List Char} {entries : List (String × Json)}
    (hbegins : (skipSpace chars).head? ≠ some '\x7d')
    (h : readEntries manner fuel limit (skipSpace chars) = .ok (entries, rest)) :
    readValue manner (fuel + 1) (limit + 1) ('\x7b' :: chars) = .ok (.record entries, rest) := by
  rw [readValue]
  split
  · next heq => exact absurd (congrArg List.head? heq) hbegins
  · rw [if_neg (Nat.succ_ne_zero limit), Nat.add_sub_cancel, h]
    rfl

/-- A list is read when its items are. -/
theorem readsAs_list {items : List Json}
    (h : ∀ item ∈ items,
      ReadsAs manner limit (indentedAt indent (depth + 1) item).toList item) :
    ReadsAs manner (limit + 1) (indentedAt indent depth (.list items)).toList (.list items) := by
  rw [indentedAt, indentedItems_eq_map]
  cases items with
  | nil =>
    have hchars : (bracket indent depth "[" "]" []).toList = ['[', ']'] :=
      toList_bracket_nil indent depth "[" "]"
    rw [List.map_nil, hchars]
    refine ⟨⟨'[', by decide, [']'], rfl⟩, fun {fuel} rest hfuel => ?_⟩
    cases fuel with
    | zero => cases hfuel
    | succ fuel => rfl
  | cons item items =>
    have hopen : "[".toList = ['['] := rfl
    have hclose : "]".toList = [']'] := rfl
    rw [List.map_cons, toList_bracket_cons, List.flatMap_map, hopen, hclose]
    refine ⟨⟨'[', by decide, _, rfl⟩, fun {fuel} rest hfuel => ?_⟩
    cases fuel with
    | zero => cases hfuel
    | succ fuel =>
      have hitem := h item List.mem_cons_self
      have hless : ((indentedAt indent (depth + 1) item).toList ++ items.flatMap fun value =>
          ',' :: ((breakLine indent (depth + 1)).toList ++
            (indentedAt indent (depth + 1) value).toList)).length < fuel := by
        simp only [List.length_append, List.length_cons] at hfuel ⊢
        omega
      have hread := readItems_joined (isSpace_breakLine indent (depth + 1))
        (isSpace_breakLine indent depth) rest items h hless
      have hskip := fun more => (skipSpace_append (isSpace_breakLine indent (depth + 1)) _).trans
        (hitem.skipSpace_eq more)
      simp only [List.cons_append, List.nil_append, List.append_assoc]
      refine readValue_list manner ?_ ?_
      · obtain ⟨c, hc, more, hbegins⟩ := hitem.begins
        rw [hskip, hbegins]
        exact fun he => (valueStarts_spec c hc).2.1 (Option.some.inj he)
      · rw [hskip, hread]

/-- A record is read when its values are. -/
theorem readsAs_record {entries : List (String × Json)}
    (h : ∀ entry ∈ entries,
      ReadsAs manner limit (indentedAt indent (depth + 1) entry.2).toList entry.2) :
    ReadsAs manner (limit + 1) (indentedAt indent depth (.record entries)).toList
      (.record entries) := by
  rw [indentedAt, indentedEntries_eq_map]
  cases entries with
  | nil =>
    have hchars : (bracket indent depth "\x7b" "\x7d" []).toList = ['\x7b', '\x7d'] :=
      toList_bracket_nil indent depth "\x7b" "\x7d"
    rw [List.map_nil, hchars]
    refine ⟨⟨'\x7b', by decide, ['\x7d'], rfl⟩, fun {fuel} rest hfuel => ?_⟩
    cases fuel with
    | zero => cases hfuel
    | succ fuel => rfl
  | cons entry entries =>
    have hopen : "\x7b".toList = ['\x7b'] := rfl
    have hclose : "\x7d".toList = ['\x7d'] := rfl
    rw [List.map_cons, toList_bracket_cons, List.flatMap_map, hopen, hclose]
    simp only [toList_entry]
    refine ⟨⟨'\x7b', by decide, _, rfl⟩, fun {fuel} rest hfuel => ?_⟩
    cases fuel with
    | zero => cases hfuel
    | succ fuel =>
      generalize hspell : (fun value => (indentedAt indent (depth + 1) value).toList) = spell
      have hvalues : ∀ e ∈ entry :: entries, ReadsAs manner limit (spell e.2) e.2 := hspell ▸ h
      have hless : (entryChars spell entry ++ entries.flatMap fun e =>
          ',' :: ((breakLine indent (depth + 1)).toList ++ entryChars spell e)).length < fuel := by
        simp only [hspell, List.length_append, List.length_cons] at hfuel ⊢
        omega
      have hread := readEntries_joined (isSpace_breakLine indent (depth + 1))
        (isSpace_breakLine indent depth) rest entries hvalues hless
      have hskip := fun more => (skipSpace_append (isSpace_breakLine indent (depth + 1)) _).trans
        (skipSpace_entryChars spell entry more)
      simp only [List.cons_append, List.nil_append, List.append_assoc]
      refine readValue_record manner ?_ ?_
      · rw [hskip, entryChars, toList_quote]
        exact fun he => absurd (Option.some.inj he) (by decide)
      · rw [hskip, hread]

end

/-- A value made of texts is read back as it was printed. -/
theorem readsAs_indentedAt (manner : Manner) (indent : Nat) {limit : Nat} {value : Json}
    (h : Textual limit value) (depth : Nat) :
    ReadsAs manner limit (indentedAt indent depth value).toList value := by
  induction h generalizing depth with
  | null =>
    rw [indentedAt]
    exact readsAs_word manner (by decide) fun _ => rfl
  | bool value =>
    rw [indentedAt]
    cases value with
    | false => exact readsAs_word manner (by decide) fun _ => rfl
    | true => exact readsAs_word manner (by decide) fun _ => rfl
  | text value =>
    rw [indentedAt]
    exact readsAs_text manner value
  | list _ ih => exact readsAs_list manner indent depth fun item hm => ih item hm (depth + 1)
  | record _ ih => exact readsAs_record manner indent depth fun entry hm => ih entry hm (depth + 1)

/-- The indented form of a value made of texts is read back as that value. -/
theorem read_indented {limit : Nat} {value : Json} (h : Textual limit value) (indent : Nat) :
    read limit (value.indented indent) = .ok value := by
  have hreads := readsAs_indentedAt .strict indent h 0
  have hmark : (indentedAt indent 0 value).toList.head? ≠ some '\uFEFF' := by
    obtain ⟨c, hc, more, hbegins⟩ := hreads.begins
    rw [hbegins]
    exact fun he => (valueStarts_spec c hc).2.2 (Option.some.inj he)
  have hskip := hreads.skipSpace_eq []
  have henough : (indentedAt indent 0 value).toList.length ≤
      enoughSteps (indentedAt indent 0 value).toList := by
    rw [enoughSteps]
    omega
  have hread := hreads.reads [] henough
  rw [List.append_nil] at hskip hread
  rw [indented, read, readWith]
  simp only [if_neg hmark, hskip, hread]
  rfl

end PageCompiler.Json
