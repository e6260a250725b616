import PromptLine.Log.Setup
import PromptLine.Proofs.Log.Backend

/-!
# What a log writes to its file

A log that is set up for a file looks at its threshold twice, in a filter before all layers and in
the layer that writes. It comes to the same as looking at it once: the log keeps a file
(`PromptLine.Log.Open.Keeps`) if of every event that passes one record is written there, and nothing
else, whether or not there is a display too. What such a log adds to the file is the records of the
events that pass, in order (`PromptLine.Log.Open.Keeps.text?_takeAll`).
-/

namespace PromptLine.Log

variable {backend : Backend} {written : Event → String} {threshold : Threshold}
  {place : File.Place} {outlet : Outlet}

@[simp] theorem takeAll_nil (log? : Option Open) : takeAll log? [] outlet = outlet := rfl

@[simp] theorem takeAll_cons (log? : Option Open) (event : Event) (events : List Event) :
    takeAll log? (event :: events) outlet = takeAll log? events (take log? event outlet) := rfl

/-- Events in a row are taken one after the other. -/
theorem takeAll_append (log? : Option Open) (first second : List Event) :
    takeAll log? (first ++ second) outlet = takeAll log? second (takeAll log? first outlet) :=
  List.foldl_append

@[simp] theorem records_nil : records written threshold [] = "" := rfl

/-- The records of events in a row are in the same order. -/
theorem records_append (first second : List Event) :
    records written threshold (first ++ second) =
      records written threshold first ++ records written threshold second := by
  unfold records
  rw [List.filter_append, List.map_append, String.join_append]

/-- Everything passes the lowest threshold. -/
theorem records_trace (written : Event → String) (events : List Event) :
    records written ⟨some .trace⟩ events = String.join (events.map written) := by
  have all : ∀ event ∈ events, event.passes ⟨some .trace⟩ := by
    intro event _
    cases event <;> rfl
  unfold records
  rw [List.filter_eq_self.mpr all]

namespace Open

/-- **A log keeps a file.** Of an event that passes a threshold it writes one record at the end of
the file. It writes nothing else to files. -/
def Keeps (log : Open) (written : Event → String) (place : File.Place) (threshold : Threshold) :
    Prop :=
  ∀ event outlet, (log.take event outlet).files =
    if event.passes threshold then outlet.files.append (written event) place
    else outlet.files

/-- The log with a filter, a layer for a display if there is one, and a layer for a file. -/
def toFile (backend : Backend) (display? : Option Display) (place : File.Place)
    (threshold : Threshold) : Open :=
  backend.logOf (.filter threshold ::
    ((display?.map fun display => .display display threshold).toList ++ [.file place threshold]))

/-- The filter and the layer for the file let the same events pass. -/
theorem keeps_toFile (documented : backend.Documented) (display? : Option Display)
    (place : File.Place) (threshold : Threshold) :
    (toFile backend display? place threshold).Keeps (backend.record .plain) place threshold := by
  intro event outlet
  by_cases passes : event.passes threshold
  · rw [if_pos passes]
    refine (documented.writes fun other member => ?_).trans ?_
    · obtain rfl : other = threshold := by cases display? <;> simpa using member
      exact passes
    · cases display? <;> exact if_pos passes
  · rw [if_neg passes]
    exact documented.filters List.mem_cons_self passes

namespace Keeps
variable {log : Open} (keeps : log.Keeps written place threshold)
include keeps

/-- One event adds its record, if it passes. -/
theorem text?_take {old : String} (holds : outlet.files.text? place = some old) (event : Event) :
    (log.take event outlet).files.text? place =
      some (old ++ records written threshold [event]) := by
  rw [keeps event outlet]
  by_cases passes : event.passes threshold
  · rw [if_pos passes, File.Tree.text?_append_self holds]
    simp [records, passes]
  · rw [if_neg passes, holds]
    simp [records, passes]

/-- **What a log adds to its file** is the records of the events that pass, in their order. -/
theorem text?_takeAll {old : String} (holds : outlet.files.text? place = some old)
    (events : List Event) :
    (takeAll (some log) events outlet).files.text? place =
      some (old ++ records written threshold events) := by
  induction events generalizing outlet old with
  | nil => simpa using holds
  | cons event events ih =>
    have taken : (Log.take (some log) event outlet).files.text? place =
        some (old ++ records written threshold [event]) := keeps.text?_take holds event
    rw [takeAll_cons, ih taken, String.append_assoc, ← records_append, List.singleton_append]

/-- A log changes no other file. -/
theorem text?_takeAll_of_ne {other : File.Place} (different : other ≠ place)
    (events : List Event) :
    (takeAll (some log) events outlet).files.text? other = outlet.files.text? other := by
  induction events generalizing outlet with
  | nil => rfl
  | cons event events ih =>
    rw [takeAll_cons, ih]
    refine (congrArg (File.Tree.text? other) (keeps event outlet)).trans ?_
    split
    · exact File.Tree.text?_append_of_ne different
    · rfl

end Keeps

end Open

section Setup
variable {path : String} {before opened : File.Tree} {config : Config}

/-- A log file that was opened holds what it held before. -/
theorem opens_openPath (documented : backend.Documented)
    (opens : backend.openPath path before = (.ok place, opened)) : before.Opens opened place := by
  unfold Backend.openPath at opens
  split at opens
  · cases opens
  · cases opens
  · split at opens
    next folder name _ reached made found =>
      cases opens
      exact documented.opens found
    · cases opens

/-- **Setting up a log for a file** that can be opened. -/
theorem setUp_of_opens (opens : backend.openPath path before = (.ok place, opened))
    (asked : config.writer.path? = some path) :
    config.setUpWith backend before =
      (.ok (some (.toFile backend config.writer.display? place config.threshold)), opened) := by
  have somewhere : config.writer ≠ .none := by
    intro nowhere
    rw [nowhere] at asked
    cases asked
  have layer : config.fileLayer? backend before =
      (.ok (some (.file place config.threshold)), opened) := by
    unfold Config.fileLayer?
    rw [asked]
    dsimp only
    rw [opens]
  unfold Config.setUpWith
  rw [if_neg somewhere, layer]
  rfl

/-- It can be put in force for the whole program if no other log is. -/
theorem install_of_opens (opens : backend.openPath path before = (.ok place, opened))
    (asked : config.writer.path? = some path) :
    config.installWith backend none before =
      (.ok (some (.toFile backend config.writer.display? place config.threshold)), opened) := by
  unfold Config.installWith
  rw [setUp_of_opens opens asked]
  rfl

end Setup

end PromptLine.Log
