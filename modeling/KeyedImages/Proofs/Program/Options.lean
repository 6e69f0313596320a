import KeyedImages.Proofs.CommandLine.Spelling
import KeyedImages.Proofs.Program.Written

/-! Options of a run: whichever way they are written on the command line, and in whichever order,
the run comes to the same. -/
namespace KeyedImages.Program

open CommandLine (Given Spells)

/-- Two runs with the same options, each given at most once, cannot be told apart by their exit
codes and by what they write. -/
theorem options_in_any_order {gs gs' : List Given} {words words' : List String}
    (hwords : Spells gs words) (hwords' : Spells gs' words') (hperm : gs.Perm gs')
    (hnodup : (gs.map Given.longName).Nodup) (hplain : ∀ g ∈ gs, g.IsPlain) (s : Surroundings)
    (draw draw' : Draw) (now now' : Timestamp) :
    (run ⟨words', s, draw', now'⟩).exitCode = (run ⟨words, s, draw, now⟩).exitCode ∧
      (run ⟨words', s, draw', now'⟩).written = (run ⟨words, s, draw, now⟩).written := by
  rcases CommandLine.read_spells_perm hwords hwords' hperm hnodup hplain with
    ⟨c, hread, hread'⟩ | ⟨reason, reason', hread, hread'⟩
  · exact run_congr_settings hread hread' rfl
  · exact run_congr (run_refused hread) (run_refused hread')

/-- A name that looks like another option, and a number of images, in two orders. -/
theorem options_in_any_order_lookalike :
    let s : Surroundings := ⟨"/w", [("A_SYSTEM_SERVICE__KEY", "k")], fun _ => none⟩
    let run (words : List String) (b : UInt8) := run ⟨words, s, Vector.replicate 16 b, .zero⟩
    (run ["--json", "--images", "7", "--name=images=3"] 1).exitCode =
        (run ["-n", "images=3", "--images=7", "--json"] 0).exitCode ∧
      (run ["--json", "--images", "7", "--name=images=3"] 1).written =
        (run ["-n", "images=3", "--images=7", "--json"] 0).written := by
  have hwords : Spells [.setting .name "images=3", .setting .images "7", .json]
      ["-n", "images=3", "--images=7", "--json"] :=
    .cons (.short .name "images=3" 'n' rfl) (.cons (.joined .images "7") (.cons .json .nil))
  have hwords' : Spells [.json, .setting .images "7", .setting .name "images=3"]
      ["--json", "--images", "7", "--name=images=3"] :=
    .cons .json (.cons (.long .images "7") (.cons (.joined .name "images=3") .nil))
  intro s run
  exact options_in_any_order hwords hwords' (by decide) (by decide) (by decide) s _ _ .zero .zero

end KeyedImages.Program
