import PageCompiler.Proofs.Build.ProcessedPage
import PageCompiler.Proofs.Build.ProgramParts
import PageCompiler.Proofs.Json.CompactText
import PageCompiler.Proofs.Markup.PageBody

/-!
# The markup in the program

The literal that a program embeds is read as the markup of the page's body, whatever characters that
holds. In a build that returns it is the body of the page as the build leaves it
(`Checked.literals`), so the markup of the source may have lost its directives and scripts.

A page without any is left as it is (`page_of_examined`). So where the body of the source consists
of inner tokens, its characters come back one for one : they are read as a forest that is written as
they are, both readings leave it alone, and they are quoted and read again (`body_of_literals`).
-/

namespace PageCompiler.Build

open Markup
open Component (Registry)

/-! ## The literals of a program -/

/-- The markup that an action embeds. -/
def literal? : Action → Option String
  | .embed _ literal => some literal
  | _ => none

theorem literals_eq (program : Program) :
    program.literals = program.actions.filterMap literal? :=
  rfl

theorem eq_embed_of_literal? {action : Action} {literal : String}
    (h : literal? action = some literal) : ∃ target, action = .embed target literal := by
  cases action with
  | embed target other => exact ⟨target, congrArg _ (Option.some.inj h)⟩
  | _ => cases h

theorem filterMap_literal?_eq_nil {actions : List Action}
    (h : ∀ target literal, .embed target literal ∉ actions) : actions.filterMap literal? = [] := by
  refine List.filterMap_eq_nil_iff.2 fun action hmem => ?_
  cases hfound : literal? action with
  | none => rfl
  | some literal =>
    obtain ⟨target, rfl⟩ := eq_embed_of_literal? hfound
    exact absurd hmem (h target literal)

section

variable {settings : Settings} {registry : Registry} {page : Page} {planned : Plan}

/-- A program that embeds markup embeds the body of its page, and that once. -/
theorem Checked.literals {checked : Facts} (h : Checked settings registry page planned checked)
    (hembeds : checked.embeds = true) :
    planned.program.literals = [Json.compactText planned.page.body.children.html] := by
  obtain ⟨-, blocks, hblocks, hactions⟩ := actions_assemble planned.page checked
  have hregister := filterMap_literal?_eq_nil (not_mem_blocks hblocks).2
  have hlaunch : [launching checked].filterMap literal? = [] := by
    rcases launching_cases checked with hl | hl <;> rw [hl] <;> rfl
  have hstart : (starting checked).filterMap literal? = [] := by
    rcases starting_cases checked with hs | hs <;> rw [hs] <;> rfl
  rw [literals_eq, h.actions, hactions, embedding, if_pos hembeds, List.filterMap_append,
    List.filterMap_append, List.filterMap_append, hregister, hlaunch, hstart]
  rfl

/-! ## Pages without directives and scripts -/

/-- A page without directives and scripts is planned as it is. -/
theorem page_of_plan {log : Log} (h : plan settings registry page = (.ok planned, log))
    (hmetas : metas page = []) (hscripts : scripts page = []) : planned.page = page := by
  obtain ⟨directed, scanned, -, -, rfl, rfl, -, hpage, -⟩ := examine_of_plan h
  have hdirected : (followDirectives page (.start settings.target settings.defines)).1 = page := by
    rw [followDirectives_eq, hmetas]
    rfl
  rw [hpage, hdirected, readDeclarations_eq, hscripts]
  rfl

end

/-- Around a body of inner elements stand no directives and no scripts. -/
theorem untouched_documentAround {body : Forest} (h : ∀ head ∈ body.heads, head.tag ∉ pageTags)
    (ht : (Page.ofDocument (documentAround body)).IsTree) :
    metas (Page.ofDocument (documentAround body)) = [] ∧
      scripts (Page.ofDocument (documentAround body)) = [] := by
  have htaken : ∀ tag ∈ ["meta", "script"], tag ∉ ["html", "head", "body"] ∧ tag ∈ pageTags := by
    decide
  have hnone : ∀ tag ∈ ["meta", "script"], ∀ head ∈ (Page.ofDocument (documentAround body)).inside,
      head.tag ≠ tag := by
    rintro _ htag head hmem rfl
    obtain ⟨hown, hpage⟩ := htaken _ htag
    exact (mem_heads_documentAround hmem).elim hown fun hbody => h head hbody hpage
  constructor
  · refine List.eq_nil_iff_forall_not_mem.2 fun head hmem => ?_
    obtain ⟨hinside, htag⟩ := (mem_metas ht).1 hmem
    exact hnone _ (by decide) head hinside htag
  · refine List.eq_nil_iff_forall_not_mem.2 fun head hmem => ?_
    obtain ⟨hinside, htag⟩ := (mem_scripts ht).1 hmem
    exact hnone _ (by decide) head hinside htag

theorem body_documentAround (body : Forest) :
    (Page.ofDocument (documentAround body)).body.children = body := by
  have hroot : documentHead.tag ≠ "body" := by decide
  have hhtml : ({ frameHead 1 "html" with hasEndTag := true } : Head).tag ≠ "body" := by decide
  have hhead : ({ frameHead 2 "head" with hasEndTag := true } : Head).tag ≠ "body" := by decide
  have hbody : ({ frameHead 3 "body" with hasEndTag := true } : Head).tag = "body" := by decide
  have hfind : (documentAround body).elements.find? (fun element => element.head.tag = "body") =
      some ⟨{ frameHead 3 "body" with hasEndTag := true }, body⟩ := by
    simp only [Element.elements, documentAround, Forest.elements, List.nil_append, List.find?_cons,
      hroot, hhtml, hhead, hbody, decide_true, decide_false, List.cons_append]
  rw [Page.body, Page.ofDocument, hfind]
  rfl

/-! ## Builds -/

/-- The literal that embeds markup is read as the markup of the body. If the source is a page around
inner tokens, a build for a native target has one literal, which is read as those tokens are
written. -/
theorem body_of_literals :
    (∀ (page : Page) (assembly : Assembly) (facts : Facts), facts.embeds = true →
      ∃ literal, (assembly.embedMarkup page facts).1.actions =
          assembly.actions ++ [.embed Action.defaultTarget literal] ∧
        Json.readAny literal = .ok (.text page.body.children.html)) ∧
    ∀ {settings : Settings} {registry : Registry} {page : Page} {product : Product},
      Returns settings registry page product → settings.target = .native →
      ∀ {tokens : List Token}, (∀ token ∈ tokens, token.IsInner) →
        EndsMatch Building.start tokens →
        Page.ofMarkup (pageAround (String.ofList (Token.charsOf tokens))) = .ok page →
        ∃ literal, product.program.literals = [literal] ∧
          Json.readAny literal = .ok (.text (String.ofList (Token.charsOf tokens))) := by
  constructor
  · intro page assembly facts hembeds
    obtain ⟨hactions, -⟩ := embedMarkup_settles page assembly facts
    rw [embedding, if_pos hembeds] at hactions
    exact ⟨_, hactions, Json.readAny_compactText _⟩
  · intro settings registry page product hreturns hnative tokens hinner hends hread
    obtain ⟨planned, log, hplan, hprogram, -⟩ := hreturns.plan.2
    obtain ⟨ht, hv⟩ := Page.isTree_ofMarkup hread
    obtain ⟨checked, hchecked⟩ := checked_of_plan ht hv hplan
    have hembeds : checked.embeds = true := by
      rw [Facts.embeds, hchecked.target, hnative]
      rfl
    obtain ⟨document, hparse, rfl⟩ := map_eq_ok hread
    obtain ⟨body, rfl, hhtml, hheads⟩ := parse_pageAround hinner hends hparse
    obtain ⟨hmetas, hscripts⟩ := untouched_documentAround hheads ht
    -- nothing was taken out of the page, so its body is what the tokens build
    have hliterals := hchecked.literals hembeds
    rw [page_of_plan hplan hmetas hscripts, body_documentAround, hhtml, ← hprogram] at hliterals
    exact ⟨_, hliterals, Json.readAny_compactText _⟩

/-- A list with end tags left out and tags in both cases, with references, quotes, a backslash and
characters outside ASCII. -/
def menuTokens : List Token :=
  [.startTag ⟨"UL".toList, [⟨"Title".toList, some ('"', "a>'&lt;".toList)⟩], false⟩,
   .startTag ⟨"li".toList, [], false⟩, .text "one \"".toList, .namedReference "amp".toList,
   .startTag ⟨"BR".toList, [], false⟩, .text "\\\t>\x00".toList,
   .startTag ⟨"LI".toList, [], false⟩, .text "zwölf 𝄞".toList, .endTag "UL".toList,
   .startTag ⟨"p".toList, [], false⟩, .text "\n".toList]

/-- The same list in characters. -/
def menuMarkup : String :=
  "<UL Title=\"a>'&lt;\"><li>one \"&amp;<BR>\\\t>\x00<LI>zwölf 𝄞</UL><p>\n"

/-- The settings of a build into a program as JSON. -/
def menuSettings : Settings :=
  ⟨.ofText "index.html", .native, none, none, [], none⟩

/-- A page without a body. -/
def barePage : Page :=
  .ofDocument ⟨documentHead, .leaf (.text "\"𝄞") .nil⟩

theorem body_of_literals_menu :
    (∃ literal, (Assembly.embedMarkup barePage .empty (.start .native [])).1.actions =
        [.embed Action.defaultTarget literal] ∧
      Json.readAny literal = .ok (.text "\"𝄞")) ∧
    ∃ page product literal, Page.ofMarkup (pageAround menuMarkup) = .ok page ∧
      Returns menuSettings Registry.base page product ∧
      product.program.literals = [literal] ∧ Json.readAny literal = .ok (.text menuMarkup) := by
  obtain ⟨hembeds, hreturns⟩ := body_of_literals
  constructor
  · have hhtml : barePage.body.children.html = "\"𝄞" := by decide
    obtain ⟨literal, hactions, hread⟩ := hembeds barePage .empty (.start .native []) rfl
    rw [hhtml] at hread
    exact ⟨literal, hactions, hread⟩
  · have hinner : ∀ token ∈ menuTokens, token.IsInner := by decide +kernel
    have hends : EndsMatch Building.start menuTokens := by decide +kernel
    have hchars : String.ofList (Token.charsOf menuTokens) = menuMarkup := by decide +kernel
    have hrun : ((Page.ofMarkup (pageAround menuMarkup)).toOption.any fun page =>
        (buildPage ⟨[], []⟩ menuSettings Registry.base page false).result.toOption.any
          fun _ => true) = true := by
      decide +kernel
    obtain ⟨page, hpage, hany⟩ := exists_ok_of_any hrun
    obtain ⟨product, hbuilt, -⟩ := exists_ok_of_any hany
    have hread := hpage
    rw [← hchars] at hread
    obtain ⟨literal, hliterals, hsame⟩ :=
      hreturns (.ofText hpage hbuilt) rfl hinner hends hread
    rw [hchars] at hsame
    exact ⟨page, product, literal, hpage, .ofText hpage hbuilt, hliterals, hsame⟩

end PageCompiler.Build
