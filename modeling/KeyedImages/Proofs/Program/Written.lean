import KeyedImages.Program
import KeyedImages.Proofs.GeneratedKey
import KeyedImages.Proofs.Json.RoundTrip
import KeyedImages.Proofs.MockService.Alone
import KeyedImages.Proofs.MockService.Rendered

/-! What a run of the program writes: the transcript of the session that was asked for, whatever the
key. -/
namespace KeyedImages

namespace Program

open Session MockService

/-- The words of the command line are options, and the settings are resolved. -/
structure Settled (input : Input) (c : CommandLine.Choices) (settings : Settings) : Prop where
  words : CommandLine.read input.words = .ok c
  settings : (Settings.resolve (withDotenv input.surroundings)
    (configName c (withDotenv input.surroundings))).1 = .ok settings

/-- The session that is asked for: an option stands above its setting. -/
def requested (c : CommandLine.Choices) (settings : Settings) : Request :=
  ⟨c.name.getD settings.service.clientName, c.images.getD settings.service.images⟩

/-- The transcript of a session with a stand-in that is new and has a key. -/
def expected (request : Request) : Transcript :=
  Transcript.atStandIn request.name (nextIds 0 request.images.toNat) true

/-- The ids of a new stand-in do not run out in one session. -/
theorem room (images : UInt32) : (0 : UInt64).toNat + images.toNat < UInt64.size := by
  have h := images.toNat_lt
  simp only [UInt64.toNat_zero, UInt64.size]
  omega

/-- What is written of a session, told by what was asked for alone. -/
def transcriptText (json : Bool) (request : Request) : String :=
  let images := request.images.toNat
  (if json then transcriptJson request.name images
    else "\n".intercalate (textLines request.name images)) ++ "\n"

theorem rendered_expected (json : Bool) (request : Request) :
    rendered json (expected request) = transcriptText json request := by
  have hids : (nextIds 0 request.images.toNat).map (·.number.toNat) =
      List.range' 1 request.images.toNat := nextIds_numbers (room _)
  unfold rendered expected transcriptText
  rw [prettyText_atStandIn hids, text_atStandIn hids]

variable {input : Input} {c : CommandLine.Choices} {settings : Settings}

/-- The session with a new stand-in comes to its transcript, with any key but the empty one. -/
theorem dialogue_expected (request : Request) (now : Timestamp) {key : ServiceKey}
    (hkey : key.isProvisioned = true) :
    ((dialogue request now).run service (MockService.new key)).value = .ok (expected request) := by
  have h := (dialogue_comesTo (MockService.new key) request now (room request.images)).1
  rw [h]
  exact congrArg (fun revoked => Except.ok (Transcript.atStandIn request.name _ revoked)) hkey

theorem runSession_written (settings : Settings) (json : Bool) (draw : Draw) (now : Timestamp) :
    (runSession settings json draw now).1 =
      .ok (rendered json (expected ⟨settings.service.clientName, settings.service.images⟩)) := by
  have hvalue := dialogue_expected ⟨settings.service.clientName, settings.service.images⟩ now
    (settings.isProvisioned_serviceKey draw)
  simp only [runSession, hvalue]

theorem run_settled (h : Settled input c settings) : (run input).exitCode = 0 ∧
    (run input).written = rendered c.json (expected (requested c settings)) := by
  have hsession := runSession_written (withChoices settings c) c.json input.draw input.now
  simp only [run, h.words, runWith, h.settings, hsession]
  exact ⟨trivial, rfl⟩

theorem run_unsettled {e : Settings.Failure} (hwords : CommandLine.read input.words = .ok c)
    (hsettings : (Settings.resolve (withDotenv input.surroundings)
      (configName c (withDotenv input.surroundings))).1 = .error e) :
    (run input).exitCode = 1 ∧ (run input).written = "" := by
  simp only [run, hwords, runWith, hsettings]
  exact ⟨rfl, rfl⟩

theorem run_refused {reason : CommandLine.Refusal}
    (h : CommandLine.read input.words = .error (.refused reason)) :
    (run input).exitCode = 2 ∧ (run input).written = "" := by
  simp only [run, h]
  exact ⟨trivial, trivial⟩

theorem run_congr {other : Input} {code : UInt8} {text : String}
    (h : (run input).exitCode = code ∧ (run input).written = text)
    (h' : (run other).exitCode = code ∧ (run other).written = text) :
    (run other).exitCode = (run input).exitCode ∧ (run other).written = (run input).written := by
  obtain ⟨hcode, hwritten⟩ := h
  obtain ⟨hcode', hwritten'⟩ := h'
  exact ⟨hcode'.trans hcode.symm, hwritten'.trans hwritten.symm⟩

/-- Runs with the same options and settings cannot be told apart, whatever is drawn. -/
theorem run_congr_settings {other : Input} (hwords : CommandLine.read input.words = .ok c)
    (hwords' : CommandLine.read other.words = .ok c)
    (hsettings : (Settings.resolve (withDotenv other.surroundings)
        (configName c (withDotenv other.surroundings))).1 =
      (Settings.resolve (withDotenv input.surroundings)
        (configName c (withDotenv input.surroundings))).1) :
    (run other).exitCode = (run input).exitCode ∧ (run other).written = (run input).written := by
  cases h : (Settings.resolve (withDotenv input.surroundings)
      (configName c (withDotenv input.surroundings))).1 with
  | ok settings =>
    exact run_congr (run_settled ⟨hwords, h⟩) (run_settled ⟨hwords', hsettings.trans h⟩)
  | error e =>
    exact run_congr (run_unsettled hwords h) (run_unsettled hwords' (hsettings.trans h))

/-- Once its words are read and its settings resolved, a run succeeds and writes the transcript of
the session that was asked for, line by line or as JSON that is decoded to it. It is the same with
every key: no key can be told from what is written. Otherwise, unless it is asked for help or its
version, a run fails and writes nothing. -/
theorem transcript_written (input : Input) :
    (∀ c settings, Settled input c settings →
      let request := requested c settings
      let t := expected request
      (run input).exitCode = 0 ∧
      (run input).written = (if c.json then t.document.prettyText else t.text) ++ "\n" ∧
      (run input).written = transcriptText c.json request ∧
      (c.json = true → Json.decodeText Transcript.decode (run input).written = .ok t) ∧
      (∀ key now, key ≠ "" →
        ((dialogue request now).run service (MockService.new ⟨key⟩)).value = .ok t) ∧
      t.imageIds.map (·.number.toNat) = List.range' 1 request.images.toNat ∧
      t.failures = 2 ∧ t.keyRevoked = true ∧
      ∀ other c' settings', Settled other c' settings' → requested c' settings' = request →
        c'.json = c.json → (run other).written = (run input).written) ∧
    (∀ c e, CommandLine.read input.words = .ok c →
      (Settings.resolve (withDotenv input.surroundings)
        (configName c (withDotenv input.surroundings))).1 = .error e →
      (run input).exitCode ≠ 0 ∧ (run input).written = "") ∧
    ∀ reason, CommandLine.read input.words = .error (.refused reason) →
      (run input).exitCode ≠ 0 ∧ (run input).written = "" := by
  refine ⟨?_, ?_, ?_⟩
  · intro c settings h
    obtain ⟨hcode, hwritten⟩ := run_settled h
    refine ⟨hcode, hwritten, hwritten.trans (rendered_expected _ _), ?_, ?_,
      nextIds_numbers (room _), Transcript.failures_atStandIn, rfl, ?_⟩
    · intro hjson
      rw [hwritten, rendered, if_pos hjson, Json.decodeText_prettyText_newline]
      exact Transcript.decode_document _
    · intro key now hkey
      exact dialogue_expected _ now (bne_iff_ne.2 hkey)
    · intro other c' settings' hother hrequest hjson
      rw [(run_settled hother).2, hwritten, hrequest, hjson]
  · intro c e hwords hsettings
    obtain ⟨hcode, hwritten⟩ := run_unsettled hwords hsettings
    rw [hcode]
    exact ⟨by decide, hwritten⟩
  · intro reason h
    obtain ⟨hcode, hwritten⟩ := run_refused h
    rw [hcode]
    exact ⟨by decide, hwritten⟩

theorem eq_ok_of_toOption {ε α : Type} {x : Except ε α} {a : α} (h : x.toOption = some a) :
    x = .ok a := by
  cases x with
  | error e => cases h
  | ok b => exact congrArg Except.ok (Option.some.inj h)

/-- A run that is given the empty key on its command line, so that it makes one of its own. -/
def keyless : Input :=
  ⟨["--key", "", "--images=1"], ⟨"/w", [], fun _ => none⟩, Vector.replicate 16 0, Timestamp.zero⟩

/-- The same run, with a key from a variable. -/
def keyed : Input :=
  ⟨["--images", "1"], ⟨"/w", [("SERVICE_KEY", "k")], fun _ => none⟩, Vector.replicate 16 0, ⟨5, 0⟩⟩

theorem transcript_written_keyless : ∃ c c' settings settings', Settled keyless c settings ∧
    Settled keyed c' settings' ∧ (run keyless).exitCode = 0 ∧
      (run keyless).written = "Hello ok      Good to go a-system\nAuth ok      key issued\n" ++
        "Noop ok      \nGetServerTime ok      0.000000000\nPostImage ok      id 1\n" ++
        "GetImage failed  image not found\nGetImage ok      id 1: 0 bytes\nReset ok      \n" ++
        "GetServerTime failed  invalid service key\n" ++
        "9 calls, 1 images, key revoked: true\n" ∧
      (run keyed).written = (run keyless).written := by
  have h : Settled keyless ⟨none, some "", none, some 1, false⟩ Settings.default :=
    ⟨eq_ok_of_toOption (by decide +kernel), eq_ok_of_toOption (by decide +kernel)⟩
  have h' : Settled keyed ⟨none, none, none, some 1, false⟩
      { Settings.default with service := ⟨some "k", "a-system", 2⟩ } :=
    ⟨eq_ok_of_toOption (by decide +kernel), eq_ok_of_toOption (by decide +kernel)⟩
  obtain ⟨hcode, -, hwritten, -, -, -, -, -, hsame⟩ := (transcript_written keyless).1 _ _ h
  refine ⟨_, _, _, _, h, h', hcode, ?_, hsame keyed _ _ h' rfl rfl⟩
  rw [hwritten]
  decide +kernel

end Program

end KeyedImages
