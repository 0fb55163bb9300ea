import PageCompiler.Build.Facts

/-!
# What the phases of a build leave alone

While the page is read, nothing is found out about types and class tags (`Reads`). Later the class
tag of a component is settled when it is asked for the first time. This changes no tag that any
component would get (`classTag_classTag`), so whoever asks while only class tags are settled is told
the same (`Settles`).
-/

namespace PageCompiler.Build.Facts

/-- A component is known to be visual. -/
def isVisual (facts : Facts) (name : String) : Bool :=
  (facts.descriptors.get? name).any fun descriptor => descriptor.isVisual

/-! ## Flags -/

/-- Setting a flag changes nothing but the flags. -/
theorem setFlag_eq (facts : Facts) (name : String) :
    facts.setFlag name = { facts with flags := (facts.setFlag name).flags } := by
  unfold setFlag
  split <;> rfl

theorem mem_flags_setFlag {facts : Facts} {name flag : String} :
    flag ∈ (facts.setFlag name).flags ↔ flag ∈ facts.flags ∨ name = flag := by
  unfold setFlag
  split
  · next hset =>
    have hmem : name ∈ facts.flags := List.contains_iff_mem.1 hset
    exact ⟨.inl, fun h => h.elim id fun he => he ▸ hmem⟩
  · rw [List.mem_append, List.mem_singleton, eq_comm (a := flag)]

/-! ## Reading the page -/

/-- Later facts are about the same target and know no more of types and class tags. -/
structure Reads (facts later : Facts) : Prop where
  target : later.target = facts.target
  descriptors : later.descriptors = facts.descriptors
  classTags : later.classTags = facts.classTags

theorem Reads.refl (facts : Facts) : Reads facts facts :=
  ⟨rfl, rfl, rfl⟩

theorem Reads.trans {facts later last : Facts} (h : Reads facts later) (hl : Reads later last) :
    Reads facts last :=
  ⟨hl.target.trans h.target, hl.descriptors.trans h.descriptors, hl.classTags.trans h.classTags⟩

/-- Each step reads the page, so all of them do. -/
theorem Reads.foldl {σ ι : Type} (facts : σ → Facts) {step : σ → ι → σ}
    (hstep : ∀ state item, Reads (facts state) (facts (step state item))) (items : List ι)
    (state : σ) : Reads (facts state) (facts (items.foldl step state)) :=
  items.foldlRecOn (motive := fun later => Reads (facts state) (facts later)) step
    (.refl (facts state)) fun later h item _ => h.trans (hstep later item)

theorem reads_setFlag (facts : Facts) (name : String) : Reads facts (facts.setFlag name) := by
  rw [setFlag_eq]
  exact ⟨rfl, rfl, rfl⟩

/-! ## Class tags -/

theorem classTag_fst (facts : Facts) (name : String) :
    (facts.classTag name).1 =
      (facts.classTags.get? name).getD (Component.classTag name facts.components.keys) := by
  unfold classTag
  split
  · next tag hget => rw [hget, Option.getD_some]
  · next hget => rw [hget, Option.getD_none]

theorem classTag_eq (facts : Facts) (name : String) : (facts.classTag name).2 =
    { facts with classTags := (facts.classTag name).2.classTags } := by
  unfold classTag
  split <;> rfl

/-- A class tag that was asked for is settled, and no other changes. -/
theorem get?_classTags_classTag (facts : Facts) (name other : String) :
    (facts.classTag name).2.classTags.get? other =
      if name = other then some (facts.classTag name).1 else facts.classTags.get? other := by
  unfold classTag
  split
  · next tag hget =>
    split
    · next hname => exact hname ▸ hget
    · rfl
  · exact Keyed.get?_put _ _ _ _

/-- Settling a class tag changes none. -/
theorem classTag_classTag (facts : Facts) (name other : String) :
    ((facts.classTag name).2.classTag other).1 = (facts.classTag other).1 := by
  have hcomponents := congrArg Facts.components (facts.classTag_eq name)
  rw [classTag_fst, hcomponents, get?_classTags_classTag]
  split
  · next hname => rw [Option.getD_some, hname]
  · rw [classTag_fst]

/-- Later facts differ in class tags that were settled meanwhile and in what was said. No class tag
was settled anew, and every component gets the class tag that it would have got. -/
structure Settles (facts later : Facts) : Prop where
  others : later = { facts with classTags := later.classTags, log := later.log }
  settled : ∀ {name tag}, facts.classTags.get? name = some tag →
    later.classTags.get? name = some tag
  tags : ∀ name, (later.classTag name).1 = (facts.classTag name).1

namespace Settles

variable {facts later last : Facts}

theorem refl (facts : Facts) : Settles facts facts :=
  ⟨rfl, id, fun _ => rfl⟩

theorem trans (h : Settles facts later) (hl : Settles later last) : Settles facts last := by
  refine ⟨hl.others.trans ?_, fun ht => hl.settled (h.settled ht),
    fun name => (hl.tags name).trans (h.tags name)⟩
  rw [h.others]

theorem classTag (facts : Facts) (name : String) : Settles facts (facts.classTag name).2 := by
  refine ⟨facts.classTag_eq name ▸ rfl, fun {other tag} ho => ?_, facts.classTag_classTag name⟩
  rw [get?_classTags_classTag]
  split
  · next he => rw [classTag_fst, he, ho, Option.getD_some]
  · exact ho

theorem say (facts : Facts) (level : Level) (message : String) :
    Settles facts (facts.say level message) :=
  ⟨rfl, id, fun name => by rw [classTag_fst, classTag_fst]; rfl⟩

theorem components (h : Settles facts later) : later.components = facts.components := by
  rw [h.others]

theorem descriptors (h : Settles facts later) : later.descriptors = facts.descriptors := by
  rw [h.others]

theorem isVisual (h : Settles facts later) (name : String) :
    later.isVisual name = facts.isVisual name := by
  rw [Facts.isVisual, h.descriptors]
  rfl

theorem hasFlag (h : Settles facts later) (name : String) :
    later.hasFlag name = facts.hasFlag name := by
  rw [h.others]
  rfl

theorem target (h : Settles facts later) : later.target = facts.target := by
  rw [h.others]

end Settles

end PageCompiler.Build.Facts
