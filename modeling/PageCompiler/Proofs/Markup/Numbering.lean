import PageCompiler.Proofs.Markup.Growth
import PageCompiler.Proofs.Results

/-!
# The numbers of a document that was read

The elements of a document are those of its start tags in their order (`heads_finish`), and so they
are numbered from one in document order. An element that may not have children has none, since it is
never open (`isProper_finish`). Both hold of a document that was read (`numbered_of_parse`).
-/

namespace PageCompiler.Markup

/-- Elements that may not have children have none. -/
def Forest.VoidsEmpty (forest : Forest) : Prop :=
  ∀ element ∈ forest.elements, element.head.isVoid = true → element.children = .nil

/-- The elements of a document that was read are numbered from one in document order, and those that
may not have children have none. -/
theorem numbered_of_parse {text : String} {document : Element} (h : parse text = .ok document) :
    document.head = documentHead ∧
      (∃ count, document.children.ids = List.range' 1 count) ∧
      document.children.VoidsEmpty := by
  obtain ⟨events, -, rfl⟩ := map_eq_ok h
  obtain ⟨hhead, hproper⟩ := isProper_finish events
  refine ⟨hhead, ⟨(headsOf 1 events).length, ids_finish events⟩, fun e hmem hvoid => ?_⟩
  exact (hproper e (List.mem_cons_of_mem _ hmem)).childless (.inl hvoid)

end PageCompiler.Markup
