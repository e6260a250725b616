import PromptLine.Log.Backend
import PromptLine.Proofs.File.Tree

/-!
# What a backend of a log promises

A log relies on what the documentation of its backend says (`PromptLine.Log.Backend.Documented`): a
file is opened for more text, an event that a filter refuses comes to no layer, and any other event
is written once by each layer whose own threshold lets it pass. What a record looks like is left to
the backend. The backend that comes with the library is as documented
(`PromptLine.Log.Backend.documented_standard`).
-/

namespace PromptLine.Log

/-- What a layer that takes an event writes to files: one record of it, if its own threshold lets
the event pass. -/
def Layer.write (written : Event → String) (event : Event) (files : File.Tree) : Layer → File.Tree
  | .file place threshold =>
    if event.passes threshold then files.append (written event) place else files
  | .filter _ | .display _ _ => files

namespace Backend

/-- **What is documented about a backend.** -/
structure Documented (backend : Backend) : Prop where
  /-- A file that is opened holds what it held before, or nothing. No other file is changed. -/
  opens {text name : String} {folder : List File.Part} {tree made : File.Tree}
    {place : File.Place} :
    backend.openIn text folder name tree = (some place, made) → tree.Opens made place
  /-- A file that cannot be opened in the tree is not opened. -/
  refuses {text name : String} {folder : List File.Part} {tree : File.Tree} :
    (tree.openIn text folder name).1 = none → (backend.openIn text folder name tree).1 = none
  /-- An event that a filter does not let pass is written to no file. -/
  filters {layers : List Layer} {event : Event} {outlet : Outlet} {threshold : Threshold} :
    .filter threshold ∈ layers → ¬ event.passes threshold →
      (backend.dispatch layers event outlet).files = outlet.files
  /-- Any other event comes to all layers, one after the other. -/
  writes {layers : List Layer} {event : Event} {outlet : Outlet} :
    (∀ threshold, .filter threshold ∈ layers → event.passes threshold) →
      (backend.dispatch layers event outlet).files =
        layers.foldl (Layer.write (backend.record .plain) event) outlet.files

end Backend

@[simp] theorem Outlet.files_showOn (display : Display) (text : String) (outlet : Outlet) :
    (outlet.showOn display text).files = outlet.files := by
  cases display <;> rfl

namespace Layer

/-- A filter admits what its threshold lets pass, and no other layer refuses anything. -/
theorem all_admits_iff {layers : List Layer} {event : Event} :
    layers.all (admits event) ↔ ∀ threshold, .filter threshold ∈ layers → event.passes threshold := by
  rw [List.all_eq_true]
  constructor
  · intro admitted threshold member
    exact admitted _ member
  · intro passes layer member
    cases layer with
    | filter threshold => exact passes threshold member
    | display shown threshold | file place threshold => rfl

/-- A layer of the backend that comes with the library writes to files as documented. -/
theorem files_take (event : Event) (outlet : Outlet) (layer : Layer) :
    (layer.take event outlet).files = layer.write (Log.record .plain) event outlet.files := by
  cases layer with
  | filter threshold => rfl
  | display shown threshold =>
    simp only [take, write]
    split
    · exact outlet.files_showOn shown _
    · rfl
  | file place threshold =>
    simp only [take, write]
    split <;> rfl

/-- What reaches the files is what is written to each layer in turn. -/
theorem files_foldl_take (event : Event) (outlet : Outlet) (layers : List Layer) :
    (layers.foldl (take event) outlet).files =
      layers.foldl (write (Log.record .plain) event) outlet.files := by
  induction layers generalizing outlet with
  | nil => rfl
  | cons layer rest ih => rw [List.foldl_cons, List.foldl_cons, ih, files_take]

end Layer

/-- **The backend that comes with the library is as documented.** -/
theorem Backend.documented_standard : Backend.standard.Documented where
  opens := File.Tree.opens_openIn
  refuses := id
  filters {layers event outlet threshold} member refused := by
    have barred : ¬ layers.all (Layer.admits event) := fun admitted =>
      refused (Layer.all_admits_iff.mp admitted threshold member)
    exact congrArg Outlet.files (if_neg barred)
  writes {layers event outlet} passes := by
    refine (congrArg Outlet.files (if_pos (Layer.all_admits_iff.mpr passes))).trans ?_
    exact Layer.files_foldl_take event outlet layers

end PromptLine.Log
