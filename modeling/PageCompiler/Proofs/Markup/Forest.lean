import PageCompiler.Markup.Forest

/-!
# Forests as sequences of nodes

`append` and `reverse` treat a forest as the list of its topmost nodes : an element moves with its
children. `reverse_leaf` and `reverse_element` take the node that a frame got last to the end, and
what is read off a forest node by node, such as its markup (`html_append`), follows.
-/

namespace PageCompiler.Markup.Forest

@[simp] theorem nil_append (forest : Forest) : nil.append forest = forest :=
  rfl

@[simp] theorem append_nil : ∀ forest : Forest, forest.append nil = forest
  | nil => rfl
  | leaf l next => by rw [append, append_nil next]
  | element head children next => by rw [append, append_nil next]

theorem append_assoc : ∀ first second third : Forest,
    (first.append second).append third = first.append (second.append third)
  | nil, _, _ => rfl
  | leaf l next, second, third => by simp only [append, append_assoc next]
  | element head children next, second, third => by simp only [append, append_assoc next]

theorem reverseOnto_eq_append : ∀ forest done : Forest,
    forest.reverseOnto done = forest.reverse.append done
  | nil, _ => rfl
  | leaf l next, done => by
    rw [reverse, reverseOnto, reverseOnto, reverseOnto_eq_append next (leaf l done),
      reverseOnto_eq_append next (leaf l nil), append_assoc]
    rfl
  | element head children next, done => by
    rw [reverse, reverseOnto, reverseOnto, reverseOnto_eq_append next (element head children done),
      reverseOnto_eq_append next (element head children nil), append_assoc]
    rfl

/-- A leaf in front stands last in reverse. -/
theorem reverse_leaf (l : Leaf) (nodes : Forest) :
    (leaf l nodes).reverse = nodes.reverse.append (leaf l nil) :=
  reverseOnto_eq_append nodes (leaf l nil)

/-- An element in front stands last in reverse. -/
theorem reverse_element (head : Head) (children nodes : Forest) :
    (element head children nodes).reverse = nodes.reverse.append (element head children nil) :=
  reverseOnto_eq_append nodes (element head children nil)

theorem reverseOnto_append : ∀ first second done : Forest,
    (first.append second).reverseOnto done = second.reverseOnto (first.reverseOnto done)
  | nil, _, _ => rfl
  | leaf l next, second, done => reverseOnto_append next second (leaf l done)
  | element head children next, second, done =>
    reverseOnto_append next second (element head children done)

theorem reverseOnto_reverseOnto : ∀ first second done : Forest,
    (first.reverseOnto second).reverseOnto done = second.reverseOnto (first.append done)
  | nil, _, _ => rfl
  | leaf l next, second, done => reverseOnto_reverseOnto next (leaf l second) done
  | element head children next, second, done =>
    reverseOnto_reverseOnto next (element head children second) done

@[simp] theorem reverse_reverse (forest : Forest) : forest.reverse.reverse = forest := by
  rw [reverse, reverse, reverseOnto_reverseOnto, append_nil]
  rfl

/-! ## Markup -/

@[simp] theorem html_append : ∀ first second : Forest,
    (first.append second).html = first.html ++ second.html
  | nil, second => by simp [html]
  | leaf l next, second => by simp only [append, html, html_append next, String.append_assoc]
  | element head children next, second => by
    simp only [append, html, html_append next, String.append_assoc]

theorem html_reverse_leaf (l : Leaf) (nodes : Forest) :
    (leaf l nodes).reverse.html = nodes.reverse.html ++ l.html := by
  simp [reverse_leaf, html]

theorem html_reverse_element (head : Head) (children nodes : Forest) :
    (element head children nodes).reverse.html =
      nodes.reverse.html ++ head.html children.html := by
  simp [reverse_element, html]

end PageCompiler.Markup.Forest
