import KeyedImages.Proofs.Dotenv
import KeyedImages.Proofs.Program.Written
import KeyedImages.Proofs.Settings.Layers

/-! Variables that are empty, and the same ones unset: a run comes to the same. -/
namespace KeyedImages

open Environment (without Blank)

variable {names : List String} {environment : Environment} {s s' : Surroundings}

/-- The same place without some of its variables. -/
def Surroundings.without (s : Surroundings) (names : List String) : Surroundings :=
  { s with environment := Environment.without names s.environment }

namespace Settings

theorem ofVariables_without (h : Blank names environment) :
    Layers.ofVariables (without names environment) = Layers.ofVariables environment := by
  unfold without
  induction environment with
  | nil => rfl
  | cons v environment ih =>
    obtain ⟨name, value⟩ := v
    obtain ⟨hfirst, hothers⟩ := List.forall_mem_cons.1 h
    rw [ofVariables_cons]
    by_cases hname : name ∈ names
    · obtain rfl : value = "" := hfirst hname
      have hnone : Layers.ofVariable? name "" = none := by simp [Layers.ofVariable?]
      rw [hnone]
      simpa [hname] using ih hothers
    · have hkept : ((name, value) :: environment).filter (fun v => v.1 ∉ names) =
          (name, value) :: environment.filter fun v => v.1 ∉ names := by simp [hname]
      rw [hkept, ofVariables_cons, ih hothers]

theorem value?_eq (environment : Environment) (name : String) : value? environment name =
    (some ((environment.lookup name).getD "")).filter (· ≠ "") := by
  unfold value?
  cases environment.lookup name <;> rfl

/-- Settings are resolved without regard to variables that are empty. -/
theorem resolve_congr (hdirectory : s'.directory = s.directory) (hfiles : s'.file? = s.file?)
    (h : SameButEmpty names s.environment s'.environment) (file : Option String) :
    (resolve s' file).1 = (resolve s file).1 := by
  obtain ⟨directory, environment, file?⟩ := s
  obtain ⟨directory', environment', file?'⟩ := s'
  dsimp only at hdirectory hfiles h
  subst hdirectory hfiles
  have hfile : Layers.ofFile ⟨directory', environment', file?'⟩ file =
      Layers.ofFile ⟨directory', environment, file?'⟩ file := by
    cases file <;> rfl
  have hvariables : Layers.ofVariables environment' = Layers.ofVariables environment := by
    rw [← ofVariables_without h.blank, ← ofVariables_without h.blank_rest, h.without_eq]
  have hvalue (name : String) : value? environment' name = value? environment name := by
    rw [value?_eq, value?_eq, h.getD_lookup]
  simp only [resolve, Layers.join, hfile, hvariables, direct_eq, hvalue]

end Settings

namespace Program

theorem environment_withDotenv (s : Surroundings) : (withDotenv s).environment =
    ((Dotenv.paths s.directory).findSome? s.file?).elim s.environment
      fun text => Dotenv.load text s.environment := by
  unfold withDotenv
  cases (Dotenv.paths s.directory).findSome? s.file? <;> rfl

theorem directory_withDotenv (s : Surroundings) : (withDotenv s).directory = s.directory := by
  unfold withDotenv
  split <;> rfl

theorem files_withDotenv (s : Surroundings) : (withDotenv s).file? = s.file? := by
  unfold withDotenv
  split <;> rfl

theorem sameButEmpty_withDotenv (h : Blank names s.environment)
    (hdotenv : Blank names (withDotenv (s.without names)).environment) :
    SameButEmpty names (withDotenv s).environment (withDotenv (s.without names)).environment := by
  have hsame : SameButEmpty names s.environment (s.without names).environment := .of_blank h
  have hpaths : (Dotenv.paths (s.without names).directory).findSome? (s.without names).file? =
      (Dotenv.paths s.directory).findSome? s.file? := rfl
  rw [environment_withDotenv, hpaths] at hdotenv
  rw [environment_withDotenv, environment_withDotenv, hpaths]
  cases hfound : (Dotenv.paths s.directory).findSome? s.file? with
  | none => exact hsame
  | some text =>
    rw [hfound] at hdotenv
    exact hsame.load hdotenv

variable {input : Input}

theorem run_help (h : CommandLine.read input.words = .error .help) : (run input).exitCode = 0 ∧
    (run input).written = help ((withDotenv input.surroundings).get? configVariable) := by
  simp only [run, h]
  exact ⟨trivial, trivial⟩

theorem run_version (h : CommandLine.read input.words = .error .version) :
    (run input).exitCode = 0 ∧ (run input).written = version := by
  simp only [run, h]
  exact ⟨trivial, trivial⟩

/-- The help shows the same for a variable that is empty and for one that is not set. -/
theorem help_congr (h : SameButEmpty names s.environment s'.environment) :
    help (s'.get? configVariable) = help (s.get? configVariable) := by
  have hshown (value : Option String) : help value = help (some (value.getD "")) := rfl
  rw [hshown, hshown (s.get? configVariable)]
  exact congrArg (fun value => help (some value)) (h.getD_lookup configVariable).symm

theorem configName_congr {c : CommandLine.Choices}
    (h : SameButEmpty names s.environment s'.environment)
    (hconfig : configVariable ∈ names → c.config.isSome = true) :
    configName c s' = configName c s := by
  unfold configName
  by_cases hmem : configVariable ∈ names
  · obtain ⟨file, hfile⟩ := Option.isSome_iff_exists.1 (hconfig hmem)
    rw [hfile]
    rfl
  · unfold Surroundings.get?
    rw [h.lookup_of_not_mem hmem]

/-- A run comes to the same without variables that are empty, whatever they are, if the file of
assignments gives them no value either. Of the one that names the file of settings this is said
where an option stands in its place. -/
theorem empty_as_unset (input : Input) {names : List String}
    (hempty : Blank names input.surroundings.environment)
    (hdotenv : Blank names (withDotenv (input.surroundings.without names)).environment)
    (hconfig : configVariable ∈ names →
      ∀ c, CommandLine.read input.words = .ok c → c.config.isSome = true)
    (draw : Draw) (now : Timestamp) :
    let other : Input := ⟨input.words, input.surroundings.without names, draw, now⟩
    (run other).exitCode = (run input).exitCode ∧ (run other).written = (run input).written := by
  intro other
  have hsame := sameButEmpty_withDotenv hempty hdotenv
  have hwords : other.words = input.words := rfl
  cases hread : CommandLine.read input.words with
  | ok c =>
    have hdirectory : (withDotenv other.surroundings).directory =
        (withDotenv input.surroundings).directory := by
      rw [directory_withDotenv, directory_withDotenv]
      rfl
    have hfiles : (withDotenv other.surroundings).file? =
        (withDotenv input.surroundings).file? := by
      rw [files_withDotenv, files_withDotenv]
      rfl
    apply run_congr_settings hread (hwords ▸ hread)
    rw [configName_congr hsame fun hmem => hconfig hmem c hread]
    exact Settings.resolve_congr hdirectory hfiles hsame _
  | error stop =>
    have hread' : CommandLine.read other.words = .error stop := hwords ▸ hread
    cases stop with
    | refused reason => exact run_congr (run_refused hread) (run_refused hread')
    | version => exact run_congr (run_version hread) (run_version hread')
    | help =>
      have hhelp := run_help hread'
      rw [help_congr hsame] at hhelp
      exact run_congr (run_help hread) hhelp

/-- An option in the place of one of the variables, and a file of assignments that speaks of
another. -/
theorem empty_as_unset_replaced :
    let s : Surroundings := ⟨"/w", [("SERVICE_KEY", ""), ("A_SYSTEM_CONFIG", ""), ("HOME", "/"),
      ("A_SYSTEM_SERVICE__IMAGES", "")], fun path =>
        if path = ".env" then some "A_SYSTEM_SERVICE__CLIENT_NAME=$\x7bSERVICE_KEY\x7d"
        else if path = "c.toml" then some "[service]\nimages = 3" else none⟩
    let names := ["SERVICE_KEY", configVariable, "A_SYSTEM_SERVICE__IMAGES"]
    let run (s : Surroundings) (b : UInt8) :=
      run ⟨["-c", "c.toml"], s, Vector.replicate 16 b, .zero⟩
    (run (s.without names) 1).exitCode = (run s 0).exitCode ∧
      (run (s.without names) 1).written = (run s 0).written := by
  intro s names run
  have hread :
      CommandLine.read ["-c", "c.toml"] = .ok ⟨some "c.toml", none, none, none, false⟩ := by
    cbv
  have hempty : Blank names s.environment := by decide
  have hdotenv : Blank names (withDotenv (s.without names)).environment := by
    decide +kernel
  have hconfig : ∀ c, CommandLine.read ["-c", "c.toml"] = .ok c → c.config.isSome = true := by
    intro c hc
    obtain rfl := Except.ok.inj (hread.symm.trans hc)
    rfl
  exact empty_as_unset ⟨["-c", "c.toml"], s, _, .zero⟩ hempty hdotenv (fun _ => hconfig) _ .zero

/-- A file of assignments leaves a variable alone that is set, be it empty: with it the client keeps
its default name, and without it the client has the name in the file. -/
theorem empty_hides_assignment :
    let s : Surroundings := ⟨"/w", [("A_SYSTEM_SERVICE__CLIENT_NAME", "")], fun path =>
      if path = ".env" then some "A_SYSTEM_SERVICE__CLIENT_NAME=a\n" else none⟩
    let names := ["A_SYSTEM_SERVICE__CLIENT_NAME"]
    let run (s : Surroundings) := run ⟨[], s, Vector.replicate 16 0, .zero⟩
    Blank names s.environment ∧ (run (s.without names)).written ≠ (run s).written := by
  intro s names run
  constructor
  · decide
  · decide +kernel

end Program

end KeyedImages
