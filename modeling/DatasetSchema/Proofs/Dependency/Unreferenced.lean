import DatasetSchema.Proofs.Dependency.EmissionOrder
import Mathlib.Data.List.Lex

/-!
# Definitions that nobody refers to

A definition that no other one refers to may be added to a schema at any place, or removed from it,
and the others are emitted in the same order as before. Such a definition waits among those that are
ready, and whatever it refers to, it keeps no other one waiting: the others can be declared when
they could be declared without it, and their order of declaration is the same.

## Main definitions

* `Schema.IsInsertion`: a schema with one more definition.

## Main results

* `Schema.IsInsertion.isGreedy_erase`: a greedy order without the definition is a
  greedy order of the others;
* `Schema.emissionOrder_without_unreferenced`: the order of emission without the definition.
-/

namespace DatasetSchema.Schema

open Dependency Relation

variable {smaller larger : Schema} {entry : Entry} {order other : List String} {name a b : String}

/-- The schema `larger` has one more definition than `smaller`, at some place. The others
come in the same order. -/
def IsInsertion (smaller larger : Schema) (entry : Entry) : Prop :=
  ∃ before after, smaller.entries = before ++ after ∧ larger.entries = before ++ entry :: after

/-- One element more at some place keeps the order of all others. -/
theorem idxOf_le_insert_iff {x : String} {before after : List String} (ha : a ≠ x) (hb : b ≠ x) :
    (before ++ x :: after).idxOf a ≤ (before ++ x :: after).idxOf b ↔
      (before ++ after).idxOf a ≤ (before ++ after).idxOf b := by
  have hplace : ∀ c, c ≠ x → c ∉ before → (before ++ x :: after).idxOf c =
      (before ++ after).idxOf c + 1 := by
    intro c hc hmem
    rw [List.idxOf_append_of_notMem hmem, List.idxOf_append_of_notMem hmem,
      List.idxOf_cons_ne _ (Ne.symm hc)]
    rfl
  have hlater : ∀ c, c ∉ before → before.length ≤ (before ++ after).idxOf c := by
    intro c hmem
    rw [List.idxOf_append_of_notMem hmem]
    omega
  -- What stands before the place stays where it is, and what stands behind it moves on by one.
  by_cases hbefore : a ∈ before
  · have hlt := List.idxOf_lt_length_of_mem hbefore
    rw [List.idxOf_append_of_mem hbefore, List.idxOf_append_of_mem hbefore]
    by_cases hbefore' : b ∈ before
    · rw [List.idxOf_append_of_mem hbefore', List.idxOf_append_of_mem hbefore']
    · have hle := hlater b hbefore'
      rw [hplace b hb hbefore']
      omega
  · have hle := hlater a hbefore
    rw [hplace a ha hbefore]
    by_cases hbefore' : b ∈ before
    · have hlt := List.idxOf_lt_length_of_mem hbefore'
      rw [List.idxOf_append_of_mem hbefore', List.idxOf_append_of_mem hbefore']
      omega
    · rw [hplace b hb hbefore']
      omega

namespace IsInsertion

variable (h : IsInsertion smaller larger entry)
include h

theorem names_eq : ∃ before after, smaller.names = before ++ after ∧
    larger.names = before ++ entry.name :: after := by
  obtain ⟨before, after, hsmaller, hlarger⟩ := h
  refine ⟨before.map Entry.name, after.map Entry.name, ?_, ?_⟩
  · rw [names, hsmaller, List.map_append]
  · rw [names, hlarger, List.map_append, List.map_cons]

theorem mem_names_iff : name ∈ smaller.names ↔ name ∈ larger.names ∧ name ≠ entry.name := by
  obtain ⟨before, after, hsmaller, hlarger⟩ := h.names_eq
  have hnodup : larger.names.Nodup := larger.nodup_names
  rw [hlarger, List.nodup_middle, List.nodup_cons] at hnodup
  have hmem : name ∈ larger.names ↔ name = entry.name ∨ name ∈ smaller.names := by
    rw [hlarger, hsmaller, List.mem_append, List.mem_cons, List.mem_append]
    exact or_left_comm
  rw [hmem, or_and_right]
  constructor
  · intro hname
    refine .inr ⟨hname, ?_⟩
    rintro rfl
    exact hnodup.1 (hsmaller ▸ hname)
  · rintro (⟨heq, hne⟩ | ⟨hname, -⟩)
    · exact absurd heq hne
    · exact hname

theorem mem_entries_iff {e : Entry} :
    e ∈ smaller.entries ↔ e ∈ larger.entries ∧ e.name ≠ entry.name := by
  have hname : e ∈ smaller.entries → e.name ≠ entry.name := fun he =>
    (h.mem_names_iff.1 (List.mem_map_of_mem he)).2
  obtain ⟨before, after, hsmaller, hlarger⟩ := h
  have hmem : e ∈ larger.entries ↔ e = entry ∨ e ∈ smaller.entries := by
    rw [hlarger, hsmaller, List.mem_append, List.mem_cons, List.mem_append]
    exact or_left_comm
  rw [hmem]
  constructor
  · exact fun he => ⟨.inr he, hname he⟩
  · rintro ⟨rfl | he, hne⟩
    · exact absurd rfl hne
    · exact he

/-- Without the definition, the references of the others to each other are left. -/
theorem refersTo_iff :
    smaller.RefersTo a b ↔ larger.RefersTo a b ∧ a ≠ entry.name ∧ b ≠ entry.name := by
  simp only [RefersTo, h.mem_names_iff, h.mem_entries_iff]
  constructor
  · rintro ⟨⟨hb, hne⟩, fields, ⟨hentry, hne'⟩, hfield⟩
    exact ⟨⟨hb, fields, hentry, hfield⟩, hne', hne⟩
  · rintro ⟨⟨hb, fields, hentry, hfield⟩, hne', hne⟩
    exact ⟨⟨hb, hne⟩, fields, ⟨hentry, hne'⟩, hfield⟩

/-- The other definitions are declared in the same order with and without the one. -/
theorem idxOf_le_iff (ha : a ≠ entry.name) (hb : b ≠ entry.name) :
    larger.names.idxOf a ≤ larger.names.idxOf b ↔
      smaller.names.idxOf a ≤ smaller.names.idxOf b := by
  obtain ⟨before, after, hsmaller, hlarger⟩ := h.names_eq
  rw [hlarger, hsmaller]
  exact idxOf_le_insert_iff ha hb

/-! ## The order of the others -/

section Unreferenced

variable (hunreferenced : ∀ other, ¬ larger.RefersTo other entry.name)
include hunreferenced

/-- Nobody waits for the definition: another one can be declared without it exactly if it can be
declared with it, whether or not it is declared. -/
theorem isOpen_erase_iff (hname : name ≠ entry.name) :
    smaller.graph.IsOpen (order.erase entry.name) name ↔ larger.graph.IsOpen order name := by
  rw [isOpen_graph_iff, isOpen_graph_iff, h.mem_names_iff, List.mem_erase_of_ne hname]
  simp only [h.refersTo_iff, ne_eq, hname, not_false_eq_true, and_true, true_and]
  refine and_congr_right fun _ => and_congr_right fun _ => forall_congr' fun dependency => ?_
  constructor
  · intro hdeclared hrefers
    have hne : dependency ≠ entry.name := fun heq => hunreferenced name (heq ▸ hrefers)
    exact List.mem_of_mem_erase (hdeclared ⟨hrefers, hne⟩)
  · rintro hdeclared ⟨hrefers, hne⟩
    exact (List.mem_erase_of_ne hne).2 (hdeclared hrefers)

/-- The next definition to be declared is the next one of the others, unless it is the one
itself. -/
theorem isNext_erase (hnext : larger.graph.IsNext order name) (hname : name ≠ entry.name) :
    smaller.graph.IsNext (order.erase entry.name) name := by
  refine ⟨(h.isOpen_erase_iff hunreferenced hname).2 hnext.1, fun other hother => ?_⟩
  have hmem := hother.1
  rw [names_graph, h.mem_names_iff] at hmem
  have hle := hnext.2 other ((h.isOpen_erase_iff hunreferenced hmem.2).1 hother)
  rw [names_graph] at hle ⊢
  exact (h.idxOf_le_iff hname hmem.2).1 hle

/-- A greedy order without the definition is a greedy order of the others. -/
theorem isGreedy_erase (hgreedy : larger.graph.IsGreedy order) :
    smaller.graph.IsGreedy (order.erase entry.name) := by
  induction hgreedy with
  | nil => exact .nil
  | @snoc order name hgreedy hnext ih =>
    by_cases hname : name = entry.name
    · -- Declaring the definition itself adds nothing to the order of the others.
      subst hname
      have hnot : entry.name ∉ order := hnext.1.2.1
      rw [List.erase_append_right _ hnot, List.erase_cons_head, List.append_nil]
      rwa [List.erase_of_not_mem hnot] at ih
    · have herase : (order ++ [name]).erase entry.name = order.erase entry.name ++ [name] := by
        by_cases hmem : entry.name ∈ order
        · exact List.erase_append_left _ hmem
        · rw [List.erase_append_right _ hmem, List.erase_of_not_mem hmem,
            List.erase_of_not_mem (by simpa using Ne.symm hname)]
      rw [herase]
      exact ih.snoc (h.isNext_erase hunreferenced hnext hname)

/-- A way over references from another definition does not come to the one. -/
theorem transGen_of_ne (hpath : TransGen larger.RefersTo a b) (ha : a ≠ entry.name) :
    TransGen smaller.RefersTo a b := by
  have hne : ∀ {c d}, larger.RefersTo c d → d ≠ entry.name := fun hrefers heq =>
    hunreferenced _ (heq ▸ hrefers)
  induction hpath with
  | single hrefers => exact .single (h.refersTo_iff.2 ⟨hrefers, ha, hne hrefers⟩)
  | tail hpath hrefers ih =>
    obtain ⟨_, -, hlast⟩ := TransGen.tail'_iff.1 hpath
    exact ih.tail (h.refersTo_iff.2 ⟨hrefers, hne hlast, hne hrefers⟩)

/-- A definition that nobody refers to is on no circle. -/
theorem acyclic_iff : (∀ name, ¬ TransGen larger.RefersTo name name) ↔
    ∀ name, ¬ TransGen smaller.RefersTo name name := by
  constructor
  · intro hacyclic name hpath
    exact hacyclic name
      (TransGen.mono (fun _ _ hrefers => (h.refersTo_iff.1 hrefers).1) name name hpath)
  · intro hacyclic name hpath
    have hname : name ≠ entry.name := by
      rintro rfl
      obtain ⟨last, -, hlast⟩ := TransGen.tail'_iff.1 hpath
      exact hunreferenced last hlast
    exact hacyclic name (h.transGen_of_ne hunreferenced hpath hname)

end Unreferenced

end IsInsertion

/-- There is one greedy order of all definitions. -/
theorem eq_of_isGreedy (hgreedy : smaller.graph.IsGreedy order)
    (hgreedy' : smaller.graph.IsGreedy other) (horder : smaller.IsArrangement order)
    (hother : smaller.IsArrangement other) :
    order = other := by
  have hlex :=
    eq_or_lex_of_isGreedy hgreedy horder hother (List.nil_append _).symm (List.nil_append _).symm
  have hlex' := eq_or_lex_of_isGreedy hgreedy' hother horder (List.nil_append _).symm
    (List.nil_append _).symm
  rcases hlex with heq | hlt
  · exact heq
  rcases hlex' with heq | hgt
  · exact heq.symm
  · exact absurd (show order.map smaller.names.idxOf < other.map smaller.names.idxOf from hlt)
      (lt_asymm (show other.map smaller.names.idxOf < order.map smaller.names.idxOf from hgt))

/-- If no definition reaches itself, the countdown without a definition that nobody refers to
declares the others in the same order. -/
theorem IsInsertion.order_run (h : IsInsertion smaller larger entry)
    (hunreferenced : ∀ other, ¬ larger.RefersTo other entry.name)
    (hacyclic : ∀ name, ¬ TransGen larger.RefersTo name name) :
    ((Countdown.start smaller.graph).run smaller.graph).order =
      ((Countdown.start larger.graph).run larger.graph).order.erase entry.name := by
  have hgreedy : ∀ schema : Schema,
      schema.graph.IsGreedy ((Countdown.start schema.graph).run schema.graph).order := fun schema =>
    (Countdown.invariant_of_reachable (nodup_names_graph schema) edges_subset_names
      (.run .start)).isGreedy
  have herase := h.isGreedy_erase hunreferenced (hgreedy larger)
  refine eq_of_isGreedy (hgreedy smaller) herase
    (isArrangement_run ((h.acyclic_iff hunreferenced).1 hacyclic))
    (isArrangement_of_isGreedy herase fun name hname => ?_)
  -- The order with the definition has all names, and only the one name is taken from it.
  obtain ⟨hmem, hne⟩ := h.mem_names_iff.1 hname
  exact (List.mem_erase_of_ne hne).2 ((isArrangement_run hacyclic).perm.mem_iff.2 hmem)

/-- A definition that no other one refers to can be added to a schema at any place, or removed from
it. If no definition of the larger schema reaches itself over references, both schemas have an order
of emission, whichever way the components of their graphs are listed, and that of the smaller one is
that of the larger one without the definition. If no definition of the smaller schema reaches
itself, and the one that is added does not refer to itself, none of the larger schema does. -/
theorem emissionOrder_without_unreferenced (hinsertion : IsInsertion smaller larger entry)
    (hunreferenced : ∀ other, larger.RefersTo other entry.name → other = entry.name)
    {components components' : List (List String)}
    (hcomponents : larger.graph.IsComponents components)
    (hcomponents' : smaller.graph.IsComponents components') :
    ((∀ name, ¬ TransGen larger.RefersTo name name) →
        ∃ order, larger.graph.emissionOrder components = .ok order ∧
          smaller.graph.emissionOrder components' = .ok (order.erase entry.name)) ∧
      ((∀ name, ¬ TransGen smaller.RefersTo name name) →
        ¬ larger.RefersTo entry.name entry.name →
          ∀ name, ¬ TransGen larger.RefersTo name name) := by
  constructor
  · intro hacyclic
    have hnobody : ∀ other, ¬ larger.RefersTo other entry.name := by
      intro other hrefers
      obtain rfl := hunreferenced other hrefers
      exact hacyclic _ (.single hrefers)
    refine ⟨_, emissionOrder_graph_eq_ok_iff.2 ⟨?_, rfl⟩, emissionOrder_graph_eq_ok_iff.2 ⟨?_, ?_⟩⟩
    · exact (circles_graph_eq_nil_iff hcomponents).2 hacyclic
    · exact (circles_graph_eq_nil_iff hcomponents').2 ((hinsertion.acyclic_iff hnobody).1 hacyclic)
    · exact hinsertion.order_run hnobody hacyclic
  · intro hacyclic hself
    refine (hinsertion.acyclic_iff fun other hrefers => ?_).2 hacyclic
    obtain rfl := hunreferenced other hrefers
    exact hself hrefers

/-- Albums, which refer to photos and which nobody refers to. -/
def albumEntry : Entry :=
  ⟨"Album", .struct [⟨"best", .label "Photo"⟩, ⟨"tags", .list (.label "Tag") none⟩]⟩

/-- The schema of photos with albums between its definitions. -/
def photosAndAlbums : Schema :=
  ⟨[⟨"Photo", .struct [⟨"tag", .label "Tag"⟩]⟩, albumEntry, ⟨"Tag", .classDomain ["cat"]⟩],
    by decide⟩

/-- Albums are ready after photos and change nothing for these. -/
theorem emissionOrder_photosAndAlbums :
    IsInsertion photos photosAndAlbums albumEntry ∧
      (∀ other, photosAndAlbums.RefersTo other "Album" → other = "Album") ∧
      ∃ order, photosAndAlbums.graph.emissionOrder [["Photo"], ["Album"], ["Tag"]] = .ok order ∧
        photos.graph.emissionOrder [["Photo"], ["Tag"]] = .ok (order.erase "Album") := by
  have hinsertion : IsInsertion photos photosAndAlbums albumEntry := ⟨[_], [_], rfl, rfl⟩
  have hedges : photosAndAlbums.graph.edges =
      [("Tag", "Album"), ("Photo", "Album"), ("Tag", "Photo")] := by
    decide +kernel
  have hunreferenced : ∀ other, photosAndAlbums.RefersTo other "Album" → other = "Album" := by
    intro other hrefers
    have hedge := mem_edges_graph_iff.2 hrefers
    rw [hedges] at hedge
    simp at hedge
  have hcomponents : photosAndAlbums.graph.IsComponents [["Photo"], ["Album"], ["Tag"]] := by
    have hsearch : photosAndAlbums.graph.components = [["Photo"], ["Album"], ["Tag"]] := by
      decide +kernel
    rw [← hsearch]
    exact isComponents_graph photosAndAlbums
  have hcomponents' : photos.graph.IsComponents [["Photo"], ["Tag"]] := by
    have hsearch : photos.graph.components = [["Photo"], ["Tag"]] := by decide +kernel
    rw [← hsearch]
    exact isComponents_graph photos
  have hacyclic := (circles_graph_eq_nil_iff hcomponents).1
    (Graph.circles_eq_nil_iff_forall_not_isCircle.mpr (by decide))
  exact ⟨hinsertion, hunreferenced,
    (emissionOrder_without_unreferenced hinsertion hunreferenced hcomponents hcomponents').1
      hacyclic⟩

end DatasetSchema.Schema
