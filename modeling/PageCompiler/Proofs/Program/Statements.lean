import PageCompiler.Program.Script
import PageCompiler.Proofs.Json.CompactText

/-!
# Statements tell actions apart

The statements of an action are printable ASCII (`isPlainText_statements`), and they tell the action
from all others, whatever statements follow (`statements_append_inj`). This holds where variables
are numbered and embedded markup is in the compact form, as in programs that were assembled
(`Action.IsScriptable`), and where no class tag is empty, for an empty one is left out
(`Action.ShowsTag`).

The first five characters of a statement say which kind of action it comes from (`mark`), and what
varies in it has an end that can be found : a text in the compact form shows its own, a variable
ends at the first character that is no letter or digit (`span_inj`).
-/

namespace PageCompiler

open Json

/-- Where two lists go on with characters that end what stands in front, they agree part by part. -/
theorem span_inj {α : Type} {p : α → Prop} : ∀ {x x' : List α} {a a' : α} {y y' : List α},
    (∀ c ∈ x, p c) → (∀ c ∈ x', p c) → ¬p a → ¬p a' → x ++ a :: y = x' ++ a' :: y' →
      x = x' ∧ a = a' ∧ y = y'
  | [], [], _, _, _, _, _, _, _, _, h => ⟨rfl, List.cons.inj h⟩
  | [], c :: _, _, _, _, _, _, hx', ha, _, h =>
    absurd ((List.cons.inj h).1 ▸ hx' c List.mem_cons_self) ha
  | c :: _, [], _, _, _, _, hx, _, _, ha', h =>
    absurd ((List.cons.inj h).1 ▸ hx c List.mem_cons_self) ha'
  | c :: x, c' :: x', _, _, _, _, hx, hx', ha, ha', h => by
    obtain ⟨hc, h⟩ := List.cons.inj h
    obtain ⟨hrest, h⟩ := span_inj (fun d hd => hx d (List.mem_cons_of_mem _ hd))
      (fun d hd => hx' d (List.mem_cons_of_mem _ hd)) ha ha' h
    exact ⟨hc ▸ hrest ▸ rfl, h⟩

/-! ## Variables and arguments -/

/-- The name of a numbered variable. -/
def IsVariable (name : String) : Prop :=
  ∃ digits : List Char, name.toList = "args".toList ++ digits ∧ ∀ d ∈ digits, d.isDigit = true

theorem isAlphanum_of_isVariable {name : String} (h : IsVariable name) :
    ∀ c ∈ name.toList, c.isAlphanum = true := by
  obtain ⟨digits, hname, hdigits⟩ := h
  rw [hname]
  refine List.forall_mem_append.2 ⟨List.all_eq_true.1 (by decide), fun d hd => ?_⟩
  rw [Char.isAlphanum, hdigits d hd, Bool.or_true]

theorem ne_of_isVariable {name : String} (h : IsVariable name) : name ≠ "" ∧ name ≠ "null" := by
  obtain ⟨digits, hname, -⟩ := h
  constructor
  · rintro rfl
    cases hname
  · rintro rfl
    cases hname

/-- An argument of a call : a text in the compact form, or a word. -/
def IsArgument (argument : String) : Prop :=
  (∃ value, argument = compactText value) ∨
    argument ≠ "" ∧ ∀ c ∈ argument.toList, c.isAlphanum = true

theorem head?_compactText (value : String) (x : List Char) :
    ((compactText value).toList ++ x).head? = some '"' := by
  rw [compactText, toList_quote]
  rfl

theorem head?_word {word : String} (hne : word ≠ "")
    (hword : ∀ c ∈ word.toList, c.isAlphanum = true) (x : List Char) :
    (word.toList ++ x).head? ≠ some '"' := by
  obtain ⟨c, rest, hchars⟩ := List.exists_cons_of_ne_nil
    fun he => hne (String.toList_eq_nil_iff.1 he)
  rw [hchars] at hword ⊢
  intro hhead
  have hc := hword c List.mem_cons_self
  rw [Option.some.inj hhead] at hc
  exact absurd hc (by decide)

/-- An argument ends at the comma or the parenthesis behind it. -/
theorem argument_append_inj {first second : String} (hf : IsArgument first)
    (hs : IsArgument second) {a a' : Char} {y y' : List Char} (ha : ¬a.isAlphanum = true)
    (ha' : ¬a'.isAlphanum = true) (h : first.toList ++ a :: y = second.toList ++ a' :: y') :
    first = second ∧ a = a' ∧ y = y' := by
  rcases hf with ⟨value, rfl⟩ | ⟨hfne, hf⟩ <;> rcases hs with ⟨other, rfl⟩ | ⟨hsne, hs⟩
  · obtain ⟨hvalue, h⟩ := compactText_append_inj h
    exact ⟨congrArg compactText hvalue, List.cons.inj h⟩
  · have hword := head?_word hsne hs (a' :: y')
    rw [← h] at hword
    exact absurd (head?_compactText value _) hword
  · have hword := head?_word hfne hf (a :: y)
    rw [h] at hword
    exact absurd (head?_compactText other _) hword
  · obtain ⟨hsame, h⟩ := span_inj hf hs ha ha' h
    exact ⟨String.toList_inj.1 hsame, h⟩

/-- The characters of arguments behind another. -/
def laterArguments (arguments : List String) : List Char :=
  arguments.flatMap fun argument => ',' :: ' ' :: argument.toList

/-- What stands behind an argument is none of its characters. -/
theorem laterArguments_begins (arguments : List String) (x : List Char) :
    ∃ c rest, laterArguments arguments ++ ')' :: x = c :: rest ∧ ¬c.isAlphanum = true := by
  cases arguments with
  | nil => exact ⟨')', x, rfl, by decide⟩
  | cons argument arguments => exact ⟨',', _, rfl, by decide⟩

/-- Arguments behind another end at the parenthesis. -/
theorem laterArguments_inj : ∀ {first second : List String} {x y : List Char},
    (∀ argument ∈ first, IsArgument argument) → (∀ argument ∈ second, IsArgument argument) →
    laterArguments first ++ ')' :: x = laterArguments second ++ ')' :: y → first = second
  | [], [], _, _, _, _, _ => rfl
  | [], _ :: _, _, _, _, _, h => absurd (List.cons.inj h).1 (by decide)
  | _ :: _, [], _, _, _, _, h => absurd (List.cons.inj h).1 (by decide)
  | argument :: first, other :: second, x, y, hf, hs, h => by
    simp only [laterArguments, List.flatMap_cons, List.cons_append, List.append_assoc] at h
    have h := (List.cons.inj (List.cons.inj h).2).2
    obtain ⟨c, more, hx, hc⟩ := laterArguments_begins first x
    obtain ⟨d, rest, hy, hd⟩ := laterArguments_begins second y
    rw [laterArguments] at hx hy
    rw [hx, hy] at h
    obtain ⟨rfl, rfl, rfl⟩ := argument_append_inj (hf argument List.mem_cons_self)
      (hs other List.mem_cons_self) hc hd h
    have hrest := laterArguments_inj (fun a ha => hf a (List.mem_cons_of_mem _ ha))
      (fun a ha => hs a (List.mem_cons_of_mem _ ha)) (hx.trans hy.symm)
    rw [hrest]

theorem laterArguments_cons (argument : String) (arguments : List String) :
    laterArguments (argument :: arguments) =
      ',' :: ' ' :: (", ".intercalate (argument :: arguments)).toList := by
  rw [laterArguments, List.flatMap_cons, String.toList_intercalate, List.map_cons, intercalate_cons,
    List.flatMap_map]
  rfl

/-- Arguments of a call are told apart. -/
theorem intercalate_inj {first second : String} {later later' : List String} {x y : List Char}
    (hf : ∀ argument ∈ first :: later, IsArgument argument)
    (hs : ∀ argument ∈ second :: later', IsArgument argument)
    (h : (", ".intercalate (first :: later)).toList ++ ')' :: x =
      (", ".intercalate (second :: later')).toList ++ ')' :: y) :
    first :: later = second :: later' := by
  have hlater : laterArguments (first :: later) ++ ')' :: x =
      laterArguments (second :: later') ++ ')' :: y := by
    rw [laterArguments_cons, laterArguments_cons]
    exact congrArg (',' :: ' ' :: ·) h
  exact laterArguments_inj hf hs hlater

/-! ## Registrations -/

section

variable {name other : String} {arguments arguments' tag tag' : Option String}

/-- Where there is a class tag, null holds the second place for a variable. -/
theorem registrationArguments_eq (h : ∀ held ∈ arguments, IsVariable held)
    (htag : tag ≠ some "") :
    Program.registrationArguments name arguments tag = compactText name ::
      (match arguments, tag with
        | none, none => []
        | some held, none => [held]
        | none, some word => ["null", compactText word]
        | some held, some word => [held, compactText word]) := by
  cases arguments with
  | none =>
    cases tag with
    | none => rfl
    | some word =>
      have hword : word ≠ "" := fun he => htag (congrArg some he)
      simp [Program.registrationArguments, hword]
  | some held =>
    have hheld := (ne_of_isVariable (h held rfl)).1
    cases tag with
    | none => simp [Program.registrationArguments, hheld]
    | some word =>
      have hword : word ≠ "" := fun he => htag (congrArg some he)
      simp [Program.registrationArguments, hheld, hword]

theorem isArgument_registrationArguments (h : ∀ held ∈ arguments, IsVariable held) :
    ∀ argument ∈ Program.registrationArguments name arguments tag, IsArgument argument := by
  have htext : ∀ value, IsArgument (compactText value) := fun value => .inl ⟨value, rfl⟩
  have hnull : IsArgument "null" := .inr ⟨by decide, List.all_eq_true.1 (by decide)⟩
  have hheld : ∀ held ∈ arguments, IsArgument held := fun held hmem =>
    .inr ⟨(ne_of_isVariable (h held hmem)).1, isAlphanum_of_isVariable (h held hmem)⟩
  by_cases htag : tag = some ""
  · -- an empty tag is left out
    have hnone : Program.registrationArguments name arguments tag =
        Program.registrationArguments name arguments none := by
      rw [htag]
      rfl
    rw [hnone, registrationArguments_eq h (Option.some_ne_none _).symm]
    cases arguments with
    | none => simp [htext]
    | some held => simp [htext, hheld held rfl]
  · rw [registrationArguments_eq h htag]
    cases arguments with
    | none => cases tag <;> simp [htext, hnull]
    | some held => cases tag <;> simp [htext, hheld held rfl]

theorem registrationArguments_places (h : ∀ held ∈ arguments, IsVariable held)
    (htag : tag ≠ some "") :
    (Program.registrationArguments name arguments tag)[1]? =
        (if tag.isSome then some (arguments.getD "null") else arguments) ∧
      (Program.registrationArguments name arguments tag)[2]? = tag.map compactText := by
  rw [registrationArguments_eq h htag]
  cases arguments <;> cases tag <;> exact ⟨rfl, rfl⟩

/-- No variable is called null, so the places tell registrations apart. -/
theorem registrationArguments_inj (h : ∀ held ∈ arguments, IsVariable held)
    (htag : tag ≠ some "") (h' : ∀ held ∈ arguments', IsVariable held) (htag' : tag' ≠ some "")
    (heq : Program.registrationArguments name arguments tag =
      Program.registrationArguments other arguments' tag') :
    name = other ∧ arguments = arguments' ∧ tag = tag' := by
  obtain ⟨hsecond, hthird⟩ := registrationArguments_places h htag
  obtain ⟨hsecond', hthird'⟩ := registrationArguments_places h' htag'
  have hname : name = other := by
    rw [registrationArguments_eq h htag, registrationArguments_eq h' htag'] at heq
    exact compactText_inj.1 (List.cons.inj heq).1
  obtain rfl : tag = tag' := by
    rw [heq, hthird'] at hthird
    exact (Option.map_injective (fun _ _ => compactText_inj.1) hthird).symm
  refine ⟨hname, ?_, rfl⟩
  rw [heq, hsecond'] at hsecond
  cases tag with
  | none => exact hsecond.symm
  | some word =>
    have hheld := Option.some.inj hsecond
    cases arguments with
    | none =>
      cases arguments' with
      | none => rfl
      | some held => exact absurd hheld (ne_of_isVariable (h' held rfl)).2
    | some held =>
      cases arguments' with
      | none => exact absurd hheld.symm (ne_of_isVariable (h held rfl)).2
      | some held' => exact congrArg some hheld.symm

end

/-! ## Statements -/

namespace Action

/-- An action as it stands in front of the last one : variables are numbered, and a text in the
compact form goes into the body of the page. -/
def IsScriptable : Action → Prop
  | use _ => True
  | holdArguments variableName _ => IsVariable variableName
  | register _ arguments _ => ∀ held ∈ arguments, IsVariable held
  | embed target literal => target = defaultTarget ∧ ∃ markup, literal = compactText markup
  | launchOnLoad => True
  | launch => True
  | startInit => False

/-- The class tag of a registration, if there is one, shows in its statement. -/
def ShowsTag : Action → Prop
  | register _ _ tag => tag ≠ some ""
  | _ => True

/-- Embedding markup takes two statements, every other action one. -/
def embeds : Action → Bool
  | embed .. => true
  | _ => false

/-- The first characters of the first statement of an action. -/
def mark : Action → List Char
  | use _ => ['s', 'l', 'p', '.', 'u']
  | holdArguments .. => ['v', 'a', 'r', ' ', 'a']
  | register .. => ['a', 'p', 'p', 'l', 'i']
  | embed .. => ['v', 'a', 'r', ' ', 'h']
  | launchOnLoad => ['r', 'o', 'o', 't', '.']
  | launch => ['i', 'n', 'i', 't', 'C']
  | startInit => []

end Action

namespace Program

theorem mark_statements {action : Action} (h : action.IsScriptable) :
    ∃ first rest, statements action = first :: rest ∧ first.toList.take 5 = action.mark := by
  cases action with
  | use name => exact ⟨_, _, rfl, by simp [Action.mark]⟩
  | holdArguments variableName entries =>
    obtain ⟨digits, hname, -⟩ := h
    exact ⟨_, _, rfl, by simp [Action.mark, hname]⟩
  | register name arguments tag => exact ⟨_, _, rfl, by simp [Action.mark]⟩
  | embed target literal => exact ⟨_, _, rfl, by simp [Action.mark]⟩
  | launchOnLoad => exact ⟨_, _, rfl, by simp [Action.mark]⟩
  | launch => exact ⟨_, _, rfl, by simp [Action.mark]⟩
  | startInit => exact absurd h id

theorem use_append_inj {name other : String} {x y : List String}
    (h : statements (.use name) ++ x = statements (.use other) ++ y) : name = other ∧ x = y := by
  obtain ⟨hline, hrest⟩ := List.cons.inj h
  have hline := congrArg String.toList hline
  simp only [String.toList_append, List.append_assoc, List.append_cancel_left_eq] at hline
  exact ⟨(compactText_append_inj hline).1, hrest⟩

/-- The variable ends at the blank, and the entries at their brace. -/
theorem holdArguments_append_inj {name other : String} {entries entries' : Keyed String}
    (hn : IsVariable name) (ho : IsVariable other) {x y : List String}
    (h : statements (.holdArguments name entries) ++ x =
      statements (.holdArguments other entries') ++ y) :
    name = other ∧ entries = entries' ∧ x = y := by
  obtain ⟨hline, hrest⟩ := List.cons.inj h
  have hline := congrArg String.toList hline
  have hequals : " = ".toList = [' ', '=', ' '] := rfl
  simp only [String.toList_append, List.append_assoc, List.append_cancel_left_eq, hequals,
    List.cons_append] at hline
  obtain ⟨hname, -, hline⟩ := span_inj (isAlphanum_of_isVariable hn)
    (isAlphanum_of_isVariable ho) (by decide) (by decide) hline
  obtain ⟨hentries, -⟩ := compactTexts_append_inj (List.cons.inj (List.cons.inj hline).2).2
  exact ⟨String.toList_inj.1 hname, hentries, hrest⟩

/-- The arguments of the call can be told apart, and they show which of them are there. -/
theorem register_append_inj {name other : String} {arguments arguments' tag tag' : Option String}
    (hn : ∀ held ∈ arguments, IsVariable held) (ht : tag ≠ some "")
    (ho : ∀ held ∈ arguments', IsVariable held) (ht' : tag' ≠ some "") {x y : List String}
    (h : statements (.register name arguments tag) ++ x =
      statements (.register other arguments' tag') ++ y) :
    name = other ∧ arguments = arguments' ∧ tag = tag' ∧ x = y := by
  obtain ⟨hline, hrest⟩ := List.cons.inj h
  have hline := congrArg String.toList hline
  have hend : ");".toList = [')', ';'] := rfl
  simp only [String.toList_append, List.append_assoc, List.append_cancel_left_eq, hend] at hline
  have hsame := intercalate_inj (isArgument_registrationArguments hn)
    (isArgument_registrationArguments ho) hline
  obtain ⟨hname, harguments, htag⟩ := registrationArguments_inj hn ht ho ht' hsame
  exact ⟨hname, harguments, htag, hrest⟩

theorem embed_append_inj {target literal other : String} {x y : List String}
    (h : statements (.embed target literal) ++ x = statements (.embed target other) ++ y) :
    literal = other ∧ x = y := by
  obtain ⟨hline, hrest⟩ := List.cons.inj h
  have hline := congrArg String.toList hline
  simp only [String.toList_append, List.append_assoc, List.append_cancel_left_eq,
    List.append_cancel_right_eq] at hline
  exact ⟨String.toList_inj.1 hline, (List.cons.inj hrest).2⟩

/-- The statements of an action tell it apart, whatever statements follow. -/
theorem statements_append_inj {action other : Action} (ha : action.IsScriptable)
    (hat : action.ShowsTag) (ho : other.IsScriptable) (hot : other.ShowsTag) {x y : List String}
    (h : statements action ++ x = statements other ++ y) : action = other ∧ x = y := by
  -- the kind of the first action is the kind of the second, since their statements begin alike
  have hmark : action.mark = other.mark := by
    obtain ⟨first, rest, hfirst, hmark⟩ := mark_statements ha
    obtain ⟨second, rest', hsecond, hmark'⟩ := mark_statements ho
    rw [hfirst, hsecond] at h
    rw [← hmark, ← hmark', (List.cons.inj h).1]
  cases action with
  | use name =>
    cases other with
    | use name' =>
      obtain ⟨rfl, hrest⟩ := use_append_inj h
      exact ⟨rfl, hrest⟩
    | _ => exact absurd hmark (by simp [Action.mark])
  | holdArguments name entries =>
    cases other with
    | holdArguments name' entries' =>
      obtain ⟨rfl, rfl, hrest⟩ := holdArguments_append_inj ha ho h
      exact ⟨rfl, hrest⟩
    | _ => exact absurd hmark (by simp [Action.mark])
  | register name arguments tag =>
    cases other with
    | register name' arguments' tag' =>
      obtain ⟨rfl, rfl, rfl, hrest⟩ := register_append_inj ha hat ho hot h
      exact ⟨rfl, hrest⟩
    | _ => exact absurd hmark (by simp [Action.mark])
  | embed target literal =>
    cases other with
    | embed target' literal' =>
      obtain ⟨rfl, -⟩ := ha
      obtain ⟨rfl, -⟩ := ho
      obtain ⟨rfl, hrest⟩ := embed_append_inj h
      exact ⟨rfl, hrest⟩
    | _ => exact absurd hmark (by simp [Action.mark])
  | launchOnLoad =>
    cases other with
    | launchOnLoad => exact ⟨rfl, (List.cons.inj h).2⟩
    | _ => exact absurd hmark (by simp [Action.mark])
  | launch =>
    cases other with
    | launch => exact ⟨rfl, (List.cons.inj h).2⟩
    | _ => exact absurd hmark (by simp [Action.mark])
  | startInit => exact absurd ha id

theorem statements_ne_nil {action : Action} (h : action.IsScriptable) :
    statements action ≠ [] := by
  obtain ⟨first, rest, hfirst, -⟩ := mark_statements h
  rw [hfirst]
  exact List.cons_ne_nil _ _

/-- Statements one after the other tell the actions apart. -/
theorem flatMap_statements_inj : ∀ {actions others : List Action},
    (∀ action ∈ actions, action.IsScriptable ∧ action.ShowsTag) →
    (∀ other ∈ others, other.IsScriptable ∧ other.ShowsTag) →
    actions.flatMap statements = others.flatMap statements → actions = others
  | [], [], _, _, _ => rfl
  | [], other :: others, _, ho, h => by
    have hnil := (List.append_eq_nil_iff.1 h.symm).1
    exact absurd hnil (statements_ne_nil (ho other List.mem_cons_self).1)
  | action :: actions, [], ha, _, h => by
    have hnil := (List.append_eq_nil_iff.1 h).1
    exact absurd hnil (statements_ne_nil (ha action List.mem_cons_self).1)
  | action :: actions, other :: others, ha, ho, h => by
    obtain ⟨haction, hat⟩ := ha action List.mem_cons_self
    obtain ⟨hother, hot⟩ := ho other List.mem_cons_self
    rw [List.flatMap_cons, List.flatMap_cons] at h
    obtain ⟨hsame, h⟩ := statements_append_inj haction hat hother hot h
    have hrest := flatMap_statements_inj (fun a hm => ha a (List.mem_cons_of_mem _ hm))
      (fun a hm => ho a (List.mem_cons_of_mem _ hm)) h
    rw [hsame, hrest]

/-! ## Printable statements -/

theorem isPlain_of_le {low c high : Char} (hlow : IsPlain low) (hhigh : IsPlain high)
    (hl : low.val ≤ c.val) (hh : c.val ≤ high.val) : IsPlain c :=
  ⟨Nat.le_trans hlow.1 (UInt32.le_iff_toNat_le.1 hl),
    Nat.lt_of_le_of_lt (UInt32.le_iff_toNat_le.1 hh) hhigh.2⟩

theorem isPlain_of_isAlphanum {c : Char} (h : c.isAlphanum = true) : IsPlain c := by
  rcases Bool.or_eq_true_iff.1 h with halpha | hdigit
  · rcases Bool.or_eq_true_iff.1 halpha with hcapital | hsmall
    · obtain ⟨hl, hh⟩ : 'A'.val ≤ c.val ∧ c.val ≤ 'Z'.val := of_decide_eq_true hcapital
      exact isPlain_of_le (by decide) (by decide) hl hh
    · obtain ⟨hl, hh⟩ := Bool.and_eq_true_iff.1 hsmall
      exact isPlain_of_le (by decide) (by decide) (of_decide_eq_true hl) (of_decide_eq_true hh)
  · obtain ⟨hl, hh⟩ := Bool.and_eq_true_iff.1 hdigit
    exact isPlain_of_le (by decide) (by decide) (of_decide_eq_true hl) (of_decide_eq_true hh)

theorem isPlainText_of_isVariable {name : String} (h : IsVariable name) : IsPlainText name :=
  fun c hc => isPlain_of_isAlphanum (isAlphanum_of_isVariable h c hc)

theorem isPlainText_of_isArgument {argument : String} (h : IsArgument argument) :
    IsPlainText argument := by
  rcases h with ⟨value, rfl⟩ | ⟨-, hword⟩
  · exact isPlainText_compactText value
  · exact fun c hc => isPlain_of_isAlphanum (hword c hc)

theorem isPlain_laterArguments {arguments : List String}
    (h : ∀ argument ∈ arguments, IsArgument argument) :
    ∀ c ∈ laterArguments arguments, IsPlain c := by
  intro c hc
  obtain ⟨argument, hm, hc⟩ := List.mem_flatMap.1 hc
  exact List.forall_mem_cons.2 ⟨by decide, List.forall_mem_cons.2
    ⟨by decide, isPlainText_of_isArgument (h argument hm)⟩⟩ c hc

/-- Arguments of a call are printable. -/
theorem isPlainText_intercalate {first : String} {later : List String}
    (h : ∀ argument ∈ first :: later, IsArgument argument) :
    IsPlainText (", ".intercalate (first :: later)) := by
  have hall := isPlain_laterArguments h
  rw [laterArguments_cons] at hall
  exact fun c hc => hall c (List.mem_cons_of_mem _ (List.mem_cons_of_mem _ hc))

theorem isPlainText_statements {action : Action} (h : action.IsScriptable) :
    ∀ line ∈ statements action, IsPlainText line := by
  cases action with
  | use name =>
    refine List.forall_mem_singleton.2 ?_
    simp only [isPlainText_append, isPlainText_compactText]
    decide
  | holdArguments name entries =>
    refine List.forall_mem_singleton.2 ?_
    simp only [isPlainText_append, isPlainText_compactTexts, isPlainText_of_isVariable h]
    decide
  | register name arguments tag =>
    refine List.forall_mem_singleton.2 ?_
    have hcall : IsPlainText (", ".intercalate (registrationArguments name arguments tag)) :=
      isPlainText_intercalate (isArgument_registrationArguments h)
    simp only [isPlainText_append]
    exact ⟨⟨by decide, hcall⟩, by decide⟩
  | embed target literal =>
    obtain ⟨rfl, markup, rfl⟩ := h
    refine List.forall_mem_cons.2 ⟨?_, List.forall_mem_singleton.2 ?_⟩
    · simp only [isPlainText_append, isPlainText_compactText]
      decide
    · decide
  | launchOnLoad => exact List.forall_mem_singleton.2 (by decide)
  | launch => exact List.forall_mem_singleton.2 (by decide)
  | startInit => exact absurd h id

end Program

end PageCompiler
