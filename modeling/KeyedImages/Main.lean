import KeyedImages.Clock
import KeyedImages.Program

/-! The program in its process: it reads what is around it and writes what comes of a run. -/
namespace KeyedImages.Main

/-- Sixteen bytes of the system's randomness. -/
def draw : IO Draw := do
  let bytes ← IO.getRandomBytes 16
  pure (Vector.ofFn fun i => bytes[i.val]?.getD 0)

/-- The variables of the process. -/
def environment : IO Environment := do
  let text ← IO.FS.readFile "/proc/self/environ"
  pure ((Text.split '\x00' text.toList).filterMap fun entry =>
    let (name, value) := Text.splitFirst '=' entry
    value.map (String.ofList name, String.ofList ·))

/-- The texts of those paths at which there is a file. -/
def texts (paths : List String) : IO (List (String × String)) :=
  paths.filterMapM fun (path : String) =>
    try
      let text ← IO.FS.readFile path
      pure (some (path, text))
    catch _ => pure none

/-- What is around the process, as far as the program can look at it with the given words. -/
def surroundings (words : List String) : IO Surroundings := do
  let directory := toString (← IO.currentDir)
  let environment ← environment
  let own ← texts (Dotenv.paths directory)
  let first : Surroundings := ⟨directory, environment, (own.lookup ·)⟩
  let config := match CommandLine.read words with
    | .ok c => Program.configName c (Program.withDotenv first)
    | .error _ => none
  let others ← texts (config.elim [] (Settings.File.paths directory))
  pure { first with file? := ((own ++ others).lookup ·) }

/-- Runs the program, and writes its records and its complaint to the error output. -/
def run (words : List String) : IO UInt32 := do
  let outcome := Program.run ⟨words, ← surroundings words, ← draw, ← Clock.read⟩
  for record in outcome.log do IO.eprintln record.text
  for text in outcome.complaint do IO.eprintln text
  IO.print outcome.written
  pure outcome.exitCode.toUInt32

end KeyedImages.Main

def main (words : List String) : IO UInt32 := KeyedImages.Main.run words
