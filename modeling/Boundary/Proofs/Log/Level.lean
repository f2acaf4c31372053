import Boundary.Log.Settings
import Boundary.Proofs.Text.Lowercase
import Mathlib

/-!
Levels by name. Main statement: a name selects a level other than `info` exactly if it is the name of
that level up to the case of ASCII letters, so nothing with another character in it selects one.
-/

namespace Boundary

namespace Level

variable {name : String} {level other : Level}

theorem lowercase_eq_label (spoken : ofName name ≠ info) :
    Text.lowercase name = (ofName name).label := by
  revert spoken
  unfold ofName
  split
  next spelled => exact fun _ => spelled
  next spelled => exact fun _ => spelled
  next => exact fun silent => absurd rfl silent
  next spelled => exact fun _ => spelled
  next spelled => exact fun _ => spelled
  next => exact fun silent => absurd rfl silent

theorem ofName_of_lowercase (spelled : Text.lowercase name = level.label) : ofName name = level := by
  rw [ofName, spelled]
  cases level <;> rfl

theorem unmistakable_label (spoken : level ≠ info) :
    ∀ letter ∈ level.label.toList, Text.Unmistakable letter := by
  have plain : level.label.toList.all fun letter => decide (Text.Unmistakable letter) := by
    cases level with
    | info => exact absurd rfl spoken
    | trace | debug | warn | error => decide
  intro letter among
  exact of_decide_eq_true (List.all_eq_true.1 plain letter among)

theorem ofName_eq_iff (spoken : level ≠ info) :
    ofName name = level ↔ name.toLower = level.label := by
  rw [← Text.lowercase_eq_iff (unmistakable_label spoken)]
  constructor
  · rintro rfl
    exact lowercase_eq_label spoken
  · exact ofName_of_lowercase

theorem ofName_eq_info_iff :
    ofName name = info ↔ ∀ level, level ≠ info → name.toLower ≠ level.label := by
  constructor
  · rintro silent level spoken spelled
    rw [(ofName_eq_iff spoken).2 spelled] at silent
    exact spoken silent
  · intro unspelled
    by_contra spoken
    exact unspelled (ofName name) spoken ((ofName_eq_iff spoken).1 rfl)

theorem map_toLower (spoken : ofName name ≠ info) :
    name.toList.map Char.toLower = (ofName name).label.toList := by
  rw [← String.toList_map]
  exact congrArg String.toList ((ofName_eq_iff spoken).1 rfl)

theorem isAlpha_of_mem_label {letter : Char} (among : letter ∈ level.label.toList) :
    letter.isAlpha = true := by
  have letters : level.label.toList.all Char.isAlpha = true := by
    cases level <;> decide
  exact List.all_eq_true.1 letters letter among

theorem isAlpha_of_mem (spoken : ofName name ≠ info) {char : Char} (among : char ∈ name.toList) :
    char.isAlpha = true := by
  have lowered := List.mem_map_of_mem (f := Char.toLower) among
  rw [map_toLower spoken] at lowered
  rw [← Char.isAlpha_toLower_eq_isAlpha]
  exact isAlpha_of_mem_label lowered

theorem eq_of_infix (spoken : level ≠ info) (inside : level.label.toList <:+: other.label.toList) :
    level = other := by
  revert spoken inside
  cases level <;> cases other <;> decide

theorem eq_nil_of_ofName_append {before after : String} (spoken : ofName name ≠ info)
    (whole : ofName (before ++ name ++ after) ≠ info) : before ++ after = "" := by
  have parts := map_toLower whole
  rw [String.toList_append, String.toList_append, List.map_append, List.map_append,
    map_toLower spoken] at parts
  have same := eq_of_infix spoken ⟨_, _, parts⟩
  rw [same] at parts
  have length := congrArg List.length parts
  simp only [List.length_append, List.length_map] at length
  rw [← String.toList_eq_nil_iff, String.toList_append, ← List.length_eq_zero_iff,
    List.length_append]
  omega

end Level

/-- A name selects `trace`, `debug`, `warn` or `error` exactly if it is the name of that level up to
the case of ASCII letters, and `info` otherwise. So a character that is no ASCII letter anywhere in a
name leaves `info`, whatever its lowercase form, and so do further characters around the name of another
level. -/
theorem levels_fold_ascii_case_only (name : String) :
    (∀ level : Level, level ≠ .info → (Level.ofName name = level ↔ name.toLower = level.label)) ∧
      (Level.ofName name = .info ↔ ∀ level : Level, level ≠ .info → name.toLower ≠ level.label) ∧
      (∀ char ∈ name.toList, char.isAlpha = false → Level.ofName name = .info) ∧
      ∀ before after : String, Level.ofName name ≠ .info → before ++ after ≠ "" →
        Level.ofName (before ++ name ++ after) = .info := by
  refine ⟨fun level spoken => Level.ofName_eq_iff spoken, Level.ofName_eq_info_iff, ?_, ?_⟩
  · intro char among foreign
    by_contra spoken
    rw [Level.isAlpha_of_mem spoken among] at foreign
    exact Bool.noConfusion foreign
  · intro before after spoken around
    by_contra whole
    exact around (Level.eq_nil_of_ofName_append spoken whole)

/-- The Kelvin sign has the small letter k as its lowercase form, which no level is spelled with. -/
example : Text.lowercase "\u212a" = "k" ∧ Level.ofName "wArN" = .warn := by decide +kernel

end Boundary
