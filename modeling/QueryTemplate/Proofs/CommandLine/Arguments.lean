import Mathlib.Algebra.Module.Submodule.Lattice
import Mathlib.Data.List.Permutation
import QueryTemplate.CommandLine.Run
import QueryTemplate.Proofs.Json.Places
import QueryTemplate.Proofs.Json.Reading

/-!
# Arguments from JSON

The word for the arguments stands for a text of JSON, of which the array is the list of arguments.
The skip marker is among them, at any depth, in the place of every object that stands for it, and
besides these places the arguments are what the array says.
-/

namespace QueryTemplate

namespace CommandLine

/-- The arguments of a text that is an array. -/
theorem Environment.arguments_of_parse {env : Environment} {word t : Text} {items : List Json}
    (hread : env.read (.ofWord word) = .ok t) (hparse : Json.parse t = .ok (.array items)) :
    env.arguments (some word) = .ok (Json.toValues items) := by
  have htext : argumentsOfText t = .ok (Json.toValues items) := by
    rw [argumentsOfText, hparse]
  rw [arguments, hread]
  exact htext

/-- An array of JSON gives arguments. They are the array read from inside out, with each object that
equals the one for the skip marker replaced as soon as it is read. So the marker is at exactly the
places of the objects with `$skip` as the only name and the word `true`, or the number one, as its
value, and outside of these objects the arguments have the form of the array at every place. -/
theorem arguments_mark_skips {env : Environment} {word t : Text} {items : List Json}
    (hread : env.read (.ofWord word) = .ok t) (hparse : Json.parse t = .ok (.array items)) :
    Json.IsJson t (.array items) ∧
      ∃ args, env.arguments (some word) = .ok args ∧
        .list args = (Json.array items).decode Json.finishObject ∧
        ∀ place,
          ((Value.list args).partAt? place = some .skip ↔ (Json.array items).SkipsAt place) ∧
          ((∀ start, start <+: place → ¬ (Json.array items).SkipsAt start) →
            ((Value.list args).partAt? place).map Value.frame =
              ((Json.array items).plain.partAt? place).map Value.frame) := by
  have hlist : .list (Json.toValues items) = (Json.array items).toValue := by rw [Json.toValue]
  refine ⟨Json.isJson_of_parse hparse, Json.toValues items, env.arguments_of_parse hread hparse,
    ?_, fun place => ?_⟩
  · rw [hlist, Json.toValue_eq_decode]
  · rw [hlist]
    exact ⟨Json.partAt?_toValue_eq_skip_iff _ place, Json.frame_partAt?_toValue _ place⟩

/-- An object that repeats the name, one with an object for the marker inside of it, and one whose
member is such an object: the first is the marker, and the others are mappings that hold it. -/
theorem arguments_mark_skips_repeated :
    let env : Environment :=
      .standard (⟨Path.ofText ['/'], []⟩ : Tree).files (Path.ofText ['/']) []
    let word := ("[\x7b\"$skip\": 0, \"$skip\": true\x7d, " ++
      "\x7b\"b\": [\x7b\"$skip\": true\x7d], \"a\": 2\x7d, " ++
      "\x7b\"$skip\": \x7b\"$skip\": true\x7d\x7d]").toList
    ∃ args, env.arguments (some word) = .ok args ∧
      (Value.list args).partAt? [0] = some .skip ∧
      (Value.list args).partAt? [1, 0, 0] = some .skip ∧
      (Value.list args).partAt? [2, 0] = some .skip ∧
      ((Value.list args).partAt? [1]).map Value.frame =
        some (.map [(.text ['b'], .null), (.text ['a'], .null)]) ∧
      ((Value.list args).partAt? [2]).map Value.frame =
        some (.map [(.text Json.skipName, .null)]) := by
  intro env word
  have hread : env.read (.ofWord word) = .ok word := by decide +kernel
  have hparse : Json.parse word = .ok (.array [
      .object [(Json.skipName, .bool true)],
      .object [(['b'], .array [.object [(Json.skipName, .bool true)]]), (['a'], .int 2)],
      .object [(Json.skipName, .object [(Json.skipName, .bool true)])]]) := by
    simp only [word]
    cbv
  obtain ⟨-, args, hargs, -, hplaces⟩ := arguments_mark_skips hread hparse
  have hskip : Json.IsSkipObject (.object [(Json.skipName, .bool true)]) := ⟨_, rfl, .inl rfl⟩
  refine ⟨args, hargs, (hplaces [0]).1.mpr ⟨_, rfl, hskip⟩,
    (hplaces [1, 0, 0]).1.mpr ⟨_, rfl, hskip⟩, (hplaces [2, 0]).1.mpr ⟨_, rfl, hskip⟩,
    (hplaces [1]).2 ?_, (hplaces [2]).2 ?_⟩
  -- Neither the array nor the object at these places stands for the marker.
  all_goals
    intro start hstart
    simp only [List.prefix_cons_iff, List.prefix_nil] at hstart
    obtain rfl | ⟨_, rfl, rfl⟩ := hstart <;>
      simp [Json.SkipsAt, Json.partAt?, Json.parts, Json.IsSkipObject]

/-- The number one is equal to the truth value true, and so the marker is in the place of objects
whose member is a number. -/
theorem arguments_mark_number_one :
    let env : Environment :=
      .standard (⟨Path.ofText ['/'], []⟩ : Tree).files (Path.ofText ['/']) []
    let word := "[\x7b\"$skip\": 1\x7d, \x7b\"$skip\": 1.0\x7d]".toList
    Json.parse word = .ok (.array [.object [(Json.skipName, .int 1)],
        .object [(Json.skipName, .float Binary64.one)]]) ∧
      env.arguments (some word) = .ok [.skip, .skip] := by
  intro env word
  have hread : env.read (.ofWord word) = .ok word := by decide +kernel
  have hparse : Json.parse word = .ok (.array [.object [(Json.skipName, .int 1)],
      .object [(Json.skipName, .float Binary64.one)]]) := by
    simp only [word]
    cbv
  exact ⟨hparse, env.arguments_of_parse hread hparse⟩

end CommandLine

end QueryTemplate
