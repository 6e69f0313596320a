import KeyedImages.CommandLine
import KeyedImages.Dotenv
import KeyedImages.Json.Encode
import KeyedImages.Log.Filter
import KeyedImages.MockService
import KeyedImages.RunError
import KeyedImages.Session.Dialogue
import KeyedImages.Settings.Resolve

/-! The program: it resolves its settings, runs one session with the stand-in service, and writes
the transcript. -/
namespace KeyedImages.Program

/-- What the program needs from outside: words, surroundings, random bytes and the time. -/
structure Input where
  words : List String
  surroundings : Surroundings
  draw : Draw
  now : Timestamp

/-- What comes of a run of the program. -/
structure Outcome where
  exitCode : UInt8
  written : String
  /-- What is said about an error, apart from the log. -/
  complaint : Option String
  log : List Log.Record

/-- The variable that can name the file of settings. -/
def configVariable : String := "A_SYSTEM_CONFIG"

def version : String := "a-system 0.1.0\n"

/-- The help text shows the value of the variable. -/
def help (config : Option String) : String :=
  "Exercise the a_system service against its mock backend\n\n" ++
  "Usage: a-system [OPTIONS]\n\n" ++
  "Options:\n" ++
  "  -c, --config <CONFIG>  Configuration file (TOML) [env: " ++ configVariable ++ "=" ++
    config.getD "" ++ "]\n" ++
  "  -k, --key <KEY>        Service key, overrides the configured one\n" ++
  "  -n, --name <NAME>      Client name presented to Hello and Auth\n" ++
  "      --images <IMAGES>  Number of images to upload\n" ++
  "      --json             Print the transcript as JSON\n" ++
  "  -h, --help             Print help\n" ++
  "  -V, --version          Print version\n"

/-- The surroundings with the variables of the nearest file for them. -/
def withDotenv (s : Surroundings) : Surroundings :=
  match (Dotenv.paths s.directory).findSome? s.file? with
  | some text => { s with environment := Dotenv.load text s.environment }
  | none => s

/-- Settings with the options that were given in their place. -/
def withChoices (s : Settings) (c : CommandLine.Choices) : Settings :=
  { s with service := ⟨c.key <|> s.service.key, c.name.getD s.service.clientName,
    c.images.getD s.service.images⟩ }

/-- The name of the file of settings: an option, or else a variable. -/
def configName (c : CommandLine.Choices) (s : Surroundings) : Option String :=
  c.config <|> s.get? configVariable

/-- The records that are shown: the filter is a variable if that is set, and otherwise a setting. -/
def filter (s : Surroundings) (settings : Settings) : Log.Filter :=
  Log.Filter.ofString ((s.get? "RUST_LOG").getD settings.log.level)

/-- The error as the program shows it. What is wrong inside a file is not told. -/
def complaint : RunError → Option String
  | .settings .malformedFile => none
  | .settings e => some ("Error: Settings(LoadError(" ++ e.reason ++ "))")
  | .service e => some ("Error: Service(" ++ e.fieldText ++ ")")
  | .serialization e => some ("Error: Serialization(" ++ e ++ ")")
  | .outside e => some ("Error: Io(" ++ e ++ ")")

def settingsRecord (s : Settings) : Log.Record :=
  ⟨.debug, .program, "Effective settings: client " ++ Text.quote s.service.clientName ++ ", " ++
    Text.Numeral.ofNat s.service.images.toNat ++ " images"⟩

def issuedRecord (service : MockService) : Log.Record :=
  ⟨.info, .program, "Mock service issued " ++
    Text.Numeral.ofNat (service.perform .posted).1.toNat ++ " image ids"⟩

/-- The transcript as it is written. -/
def rendered (json : Bool) (t : Session.Transcript) : String :=
  (if json then t.document.prettyText else t.text) ++ "\n"

/-- Runs the session of the settings, and gives what is written and all records. -/
def runSession (settings : Settings) (json : Bool) (draw : Draw) (now : Timestamp) :
    Except RunError String × List Log.Record :=
  let (key, keyLog) := settings.serviceKey draw
  let request : Session.Request := ⟨settings.service.clientName, settings.service.images⟩
  let c := (Session.dialogue request now).run MockService.service (MockService.new key)
  let log := settingsRecord settings :: keyLog ++ c.log
  match c.value with
  | .ok t => (.ok (rendered json t), log ++ [issuedRecord c.state])
  | .error e => (.error (.service e), log)

def failed (e : RunError) (log : List Log.Record) : Outcome := ⟨1, "", complaint e, log⟩

/-- Runs the program with the options that were given. Records that are written before the settings
are known are lost. -/
def runWith (c : CommandLine.Choices) (s : Surroundings) (draw : Draw) (now : Timestamp) :
    Outcome :=
  match (Settings.resolve s (configName c s)).1 with
  | .error e => failed (.settings e) []
  | .ok settings =>
    let (result, log) := runSession (withChoices settings c) c.json draw now
    let log := log.filter (filter s settings).shows
    match result with
    | .ok written => ⟨0, written, none, log⟩
    | .error e => failed e log

def run (input : Input) : Outcome :=
  let s := withDotenv input.surroundings
  match CommandLine.read input.words with
  | .error .help => ⟨0, help (s.get? configVariable), none, []⟩
  | .error .version => ⟨0, version, none, []⟩
  | .error (.refused reason) => ⟨2, "", some ("error: " ++ reason.message), []⟩
  | .ok c => runWith c s input.draw input.now

end KeyedImages.Program
