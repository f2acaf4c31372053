import Boundary.Log.Rules
import Boundary.Proofs.Startup

/-!
The written-out filters. Main statement: they know the levels of the library, all of whose parts bear its
name.
-/

namespace Boundary.Directive

def ofLevel (level : Level) : Directive := { target := some "tagbridge", threshold := some level }

theorem target_of_library (event : Event) :
    "tagbridge".toList.isPrefixOf event.target.toList = true := by
  cases event <;> simp only [Event.target] <;> decide

theorem caresAbout_ofLevel (level : Level) (event : Event) :
    (ofLevel level).caresAbout event = true := by
  rw [caresAbout, Bool.and_eq_true]
  exact ⟨target_of_library event, rfl⟩

theorem decisive?_ofLevel (level : Level) (event : Event) :
    decisive? [ofLevel level] event = some (ofLevel level) := by
  have cares := caresAbout_ofLevel level event
  have static : (ofLevel level).isStatic = true := rfl
  simp [decisive?, cares, static]

def text (level : Level) : List Char := "tagbridge=".toList ++ level.label.toList

theorem parts_text (level : Level) : parts ("tagbridge=" ++ level.label) = [text level] := by
  cases level <;> decide +kernel

theorem read_text (level : Level) : read (text level) = .ok (ofLevel level) := by
  have found : (read (text level)).toOption = some (ofLevel level) := by
    cases level <;> decide +kernel
  cases result : read (text level) with
  | error fault =>
      rw [result] at found
      cases found
  | ok directive =>
      rw [result] at found
      cases found
      rfl

theorem reader_ofLevel (level : Level) :
    reader.ofLevel level = .ok (filter [ofLevel level]) := by
  simp [FilterReader.ofLevel, reader, parts_text, readWellFormed, read_text, Except.map]

theorem reader_knowsLevels : reader.KnowsLevels := by
  intro level
  refine ⟨_, reader_ofLevel level, fun event => ?_⟩
  simp only [filter, decisive?_ofLevel]
  rfl

end Boundary.Directive
