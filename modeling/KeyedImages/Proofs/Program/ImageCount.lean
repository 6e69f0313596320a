import KeyedImages.Proofs.Json.RoundTrip
import KeyedImages.Proofs.Settings.Counts

/-! The number of images is the same number in whatever way it is given: on the command line, among
the variables, in a file, or in a text that is decoded. -/
namespace KeyedImages

open Json (Document Writes decodeText decodeText_of_writes)
open Json.Document (Represents)
open Settings (Counts counts_of imagesOf)

variable {n : Int}

section CommandLine

open CommandLine

theorem CommandLine.eq_of_rest {word : String} (h : Word.ofString word = .rest) : word = "--" := by
  unfold Word.ofString at h
  split at h
  · next hchars => exact String.toList_inj.1 hchars
  · cases h
  · cases h
  · cases h

theorem CommandLine.counts_imagesWord {before after : List String} {c d : Choices}
    (hbefore : read before = .ok c) (hrest : "--" ∉ before)
    (hread : read (before ++ after) = .ok d) (hd : d.images = none) :
    Counts n (·.images) (read (before ++ imagesWord n :: after)) := by
  have hword : ∀ word ∈ before, Word.ofString word ≠ .rest := by
    intro word hmem heq
    exact hrest (eq_of_rest heq ▸ hmem)
  have himages := read_imagesWord n hbefore hword hread hd
  refine counts_of (fun k hk => ⟨d.withImages k, ?_, rfl⟩) fun a ha => ?_
  · rw [himages, ← hk, count_ofInt]
  · rw [himages] at ha
    cases hcount : count (Text.Numeral.ofInt n) with
    | ok k => exact ⟨k, eq_of_count hcount⟩
    | error fault =>
      rw [hcount] at ha
      cases ha

end CommandLine

section Texts

variable {d : Document} {text : String}

/-- The documents of requests, with a number of images that may be any whole number. -/
def Session.Request.WithImages (n : Int) (d : Document) : Prop :=
  ∃ name, Represents
    [{ name := "name", Value := (· = .string name) },
      { name := "images", Value := (· = .number n) }] d

theorem Session.Request.counts_text (h : WithImages n d) (hwrites : Writes d.tokens text.toList) :
    Counts n (fun r : Request => some r.images) (decodeText decode text) := by
  obtain ⟨name, h⟩ := h
  have hdecode := decodeText_of_writes decode hwrites
  rw [String.ofList_toList] at hdecode
  rw [hdecode]
  refine counts_of (fun k hk => ?_) fun r hr => ?_
  · subst hk
    exact ⟨⟨name, k⟩, decode_eq_ok.2 h, rfl⟩
  · have hr := decode_eq_ok.1 hr
    obtain ⟨_, rfl, heq⟩ := h.exists_value hr (.tail _ (.head _)) rfl id (by simp) (by simp)
    exact ⟨r.images, (Document.number.inj heq).symm⟩

/-- The documents of settings of the service, with a number of images that may be any whole
number. -/
def ServiceSettings.WithImages (key : Option String) (clientName : String) (n : Int) :
    Document → Prop :=
  Represents
    [{ name := "key", Value := (· = .nullable key), absent := key = none },
      { name := "client_name", Value := (· = .string clientName) },
      { name := "images", Value := (· = .number n) }]

/-- The documents of settings, with a number of images that may be any whole number. -/
def Settings.WithImages (n : Int) (d : Document) : Prop :=
  ∃ (key : Option String) (clientName : String) (log : LogSettings), Represents
    [{ name := "service", Value := ServiceSettings.WithImages key clientName n },
      { name := "log", Value := log.Represented }] d

theorem Settings.counts_text (h : WithImages n d) (hwrites : Writes d.tokens text.toList) :
    Counts n imagesOf (decodeText decode text) := by
  obtain ⟨key, clientName, log, h⟩ := h
  have hdecode := decodeText_of_writes decode hwrites
  rw [String.ofList_toList] at hdecode
  rw [hdecode]
  refine counts_of (fun k hk => ?_) fun s hs => ?_
  · subst hk
    exact ⟨⟨⟨key, clientName, k⟩, log⟩, decode_eq_ok.2 h, rfl⟩
  · have hs := decode_eq_ok.1 hs
    obtain ⟨_, hgiven, hservice⟩ := h.exists_value hs (.head _) rfl id (by simp) (by simp)
    obtain ⟨_, rfl, heq⟩ := Represents.exists_value hgiven hservice (.tail _ (.tail _ (.head _)))
      rfl id (by simp) (by simp)
    exact ⟨s.service.images, (Document.number.inj heq).symm⟩

end Texts

open Settings

section Places

/-- A place with some variables and one file. -/
def placeWith (environment : Environment) (name text : String) : Surroundings where
  directory := "/w"
  environment
  file? path := if path = name then some text else none

theorem find_toml (environment : Environment) (text : String) :
    File.find (placeWith environment "c.toml" text) "c" = .ok ⟨.toml, "c.toml", text⟩ := by
  cbv

theorem find_json (environment : Environment) (text : String) :
    File.find (placeWith environment "c.json" text) "c.json" = .ok ⟨.json, "c.json", text⟩ := by
  cbv

theorem knownVariables_nil : KnownVariables [] := ⟨List.nodup_nil, nofun⟩

/-- Variables among which is the number of images. -/
def someVariables (n : Int) : Environment :=
  [("HOME", "/"), (imagesVariable, Text.Numeral.ofInt n)]

theorem knownVariables_someVariables (n : Int) : KnownVariables (someVariables n) where
  nodup := by simp [someVariables, imagesVariable]
  known := by
    have hhome : ¬ "a_system_".toList <+: (lower "HOME").toList := by decide
    intro v hv hstart
    rcases List.mem_pair.1 hv with rfl | rfl
    · exact absurd hstart hhome
    · exact ⟨⟨imagesVariable, "service", "images"⟩, by decide, rfl⟩

theorem value?_someVariables (n : Int) :
    value? (someVariables n) imagesVariable = some (Text.Numeral.ofInt n) := by
  have hne : Text.Numeral.ofInt n ≠ "" := by
    obtain ⟨c, cs, hcs, -⟩ := Text.Numeral.exists_signed_eq_cons n
    simp [Text.Numeral.ofInt, hcs]
  simp [value?, someVariables, imagesVariable, List.lookup, hne]

def requestOf (n : Int) : Document := .object [("images", .number n), ("name", .string "a")]

def settingsOf (n : Int) : Document :=
  .object [("log", .array [.string "info"]),
    ("service", .object [("client_name", .string "a"), ("images", .number n)])]

theorem withImages_requestOf (n : Int) : Session.Request.WithImages n (requestOf n) :=
  ⟨"a", .inr ⟨_, rfl, rfl⟩, .inr ⟨_, rfl, rfl⟩⟩

theorem withImages_settingsOf (n : Int) : Settings.WithImages n (settingsOf n) := by
  have hservice : ServiceSettings.WithImages none "a" n
      (.object [("client_name", .string "a"), ("images", .number n)]) :=
    ⟨.inl ⟨rfl, rfl⟩, .inr ⟨_, rfl, rfl⟩, .inr ⟨_, rfl, rfl⟩⟩
  have hlog : LogSettings.Represented ⟨"info"⟩ (.array [.string "info"]) := ⟨rfl, rfl⟩
  exact ⟨none, "a", ⟨"info"⟩, .inr ⟨_, rfl, hservice⟩, .inr ⟨_, rfl, hlog⟩⟩

/-- Lines of a file of TOML, one of which gives the number of images. -/
def linesOf (n : Int) : List Char :=
  "[service]\n".toList ++
    ("images = ".toList ++ (Text.Numeral.signed n ++ '\n' :: "client_name = 'a'".toList))

/-- What is taken for the number of images in each of the ways to give it. -/
def takenImages (n : Int) : List (Option UInt32) :=
  [(CommandLine.read ["--json", CommandLine.imagesWord n, "-n", "a"]).toOption.bind (·.images),
    (resolve (placeWith (someVariables n) "c.toml" (tomlText 7)) (some "c")).1.toOption.bind
      imagesOf,
    (resolve (placeWith [] "c.toml" (tomlText n)) (some "c")).1.toOption.bind imagesOf,
    (resolve (placeWith [] "c.json" (jsonDocument n).text) (some "c.json")).1.toOption.bind
      imagesOf,
    (decodeText Session.Request.decode (requestOf n).text).toOption.bind fun r => some r.images,
    (decodeText Settings.decode (settingsOf n).text).toOption.bind imagesOf]

theorem writes_text (d : Document) : Writes d.tokens d.text.toList := by
  rw [Document.text, String.toList_ofList]
  exact Document.writes_compact d

end Places

/-- The ways to give a number of images. In all of them a number that 32 bits hold is taken as it
is, and in all but a file of JSON any other one is refused. -/
structure ImageCounted (n : Int) : Prop where
  /-- An option, among words that are read without it. -/
  commandLine {before after : List String} {c d : CommandLine.Choices} :
    CommandLine.read before = .ok c → "--" ∉ before → CommandLine.read (before ++ after) = .ok d →
      d.images = none →
      Counts n (·.images) (CommandLine.read (before ++ CommandLine.imagesWord n :: after))
  /-- A variable, whatever the file says. -/
  environment {s : Surroundings} {file : Option String} {document : List (String × Tree)}
    {given : Option Scalar} :
    Layers.ofFile s file = .ok document → GivesImages document given →
      KnownVariables s.environment →
      value? s.environment imagesVariable = some (Text.Numeral.ofInt n) →
      Counts n imagesOf (resolve s file).1
  /-- A file that was read, with other settings next to the number. -/
  readFile {s : Surroundings} {file : Option String} {document : List (String × Tree)} :
    Layers.ofFile s file = .ok document → GivesImages document (some (.integer n)) →
      KnownVariables s.environment → value? s.environment imagesVariable = none →
      Counts n imagesOf (resolve s file).1
  /-- A file of JSON that was read, with other settings next to the number. -/
  readJson {s : Surroundings} {file : Option String} {document : List (String × Tree)}
    {q : Json.Quantity} :
    Layers.ofFile s file = .ok document → GivesImages document (some (ofQuantity q)) →
      (Json.Number.ofInt n).quantity? = some q →
      KnownVariables s.environment → value? s.environment imagesVariable = none →
      Counts (jsonCount n) imagesOf (resolve s file).1
  /-- A line in a file of TOML where 64 bits do not hold the number, whatever the other lines. -/
  tomlLine {s : Surroundings} {name origin : String} {before after : List Char}
    {ss : List (Option Toml.Statement)} :
    Text.Numeral.isInt64 n = false → Toml.Lines before ss →
      File.find s name = .ok ⟨.toml, origin, String.ofList
        (before ++ ("images = ".toList ++ (Text.Numeral.signed n ++ '\n' :: after)))⟩ →
      Counts n imagesOf (resolve s (some name)).1
  /-- A member in a file of JSON where the number is not even a floating-point number. -/
  jsonMember {s : Surroundings} {name origin text : String}
    {members service : List (String × Document)} :
    (Json.Number.ofInt n).quantity? = none → ("service", .object service) ∈ members →
      ("images", .number n) ∈ service → Writes (Document.object members).tokens text.toList →
      File.find s name = .ok ⟨.json, origin, text⟩ → Counts n imagesOf (resolve s (some name)).1
  /-- A file of TOML, with the number alone. -/
  tomlFile {s : Surroundings} {name origin : String} :
    File.find s name = .ok ⟨.toml, origin, tomlText n⟩ →
      KnownVariables s.environment → value? s.environment imagesVariable = none →
      Counts n imagesOf (resolve s (some name)).1
  /-- A file of JSON, with the number alone, whatever blanks stand in it. -/
  jsonFile {s : Surroundings} {name origin text : String} :
    File.find s name = .ok ⟨.json, origin, text⟩ → Writes (jsonDocument n).tokens text.toList →
      KnownVariables s.environment → value? s.environment imagesVariable = none →
      Counts (jsonCount n) imagesOf (resolve s (some name)).1
  /-- The text of a request. -/
  request {d : Document} {text : String} :
    Session.Request.WithImages n d → Writes d.tokens text.toList →
      Counts n (fun r : Session.Request => some r.images) (decodeText Session.Request.decode text)
  /-- The text of settings. -/
  settings {d : Document} {text : String} :
    Settings.WithImages n d → Writes d.tokens text.toList →
      Counts n imagesOf (decodeText Settings.decode text)

/-- Every whole number, in whatever way it is given as the number of images, is taken as just this
number if 32 bits hold it, and is refused otherwise; but in a file of JSON a number below what 64
bits hold counts as zero. -/
theorem image_counted (n : Int) : ImageCounted n where
  commandLine := CommandLine.counts_imagesWord
  environment := counts_of_variable
  readFile hfile hdocument hvariables hvalue :=
    counts_of_document hfile hdocument hvariables hvalue fun _ => counts_integer n
  readJson := counts_of_quantity
  tomlLine := counts_tomlLine
  jsonMember := counts_jsonMember
  tomlFile := counts_tomlText
  jsonFile := counts_jsonText
  request := Session.Request.counts_text
  settings := Settings.counts_text

/-- The greatest number that 32 bits hold is taken in every way, and the next one in none. Numbers
that their format does not hold make files fail. -/
theorem image_counted_limit :
    takenImages 4294967295 = List.replicate 6 (some 4294967295) ∧
      takenImages 4294967296 = List.replicate 6 none ∧
      (∃ e, (resolve (placeWith [] "c.toml" (String.ofList (linesOf 9223372036854775808)))
        (some "c")).1 = .error e) ∧
      ∃ e, (resolve (placeWith [] "c.json" (jsonDocument (16 ^ 256)).text) (some "c.json")).1 =
        .error e := by
  have htaken : ∀ n : Int, Int64.minValue.toInt ≤ n → takenImages n = List.replicate 6
      (if 0 ≤ n ∧ n < UInt32.size then some (UInt32.ofNat n.toNat) else none) := by
    intro n hn
    have hways := image_counted n
    have hbefore : CommandLine.read ["--json"] = .ok ⟨none, none, none, none, true⟩ := by cbv
    have hread : CommandLine.read (["--json"] ++ ["-n", "a"]) =
        .ok ⟨none, none, some "a", none, true⟩ := by cbv
    have hwords := hways.commandLine hbefore (by decide) hread rfl
    have hfile : Layers.ofFile (placeWith (someVariables n) "c.toml" (tomlText 7)) (some "c") =
        .ok (imagesAlone "c.toml" (.integer 7)) := by
      rw [Layers.ofFile, find_toml]
      exact read_tomlText "c.toml" 7
    have hvariable := hways.environment hfile (givesImages_alone _ _)
      (knownVariables_someVariables n) (value?_someVariables n)
    have htoml := hways.tomlFile (find_toml [] (tomlText n)) knownVariables_nil rfl
    have hjson := hways.jsonFile (find_json [] (jsonDocument n).text) (writes_text _)
      knownVariables_nil rfl
    rw [jsonCount, if_neg fun h => absurd h.1 (Int.not_lt.2 hn)] at hjson
    have hrequest := hways.request (withImages_requestOf n) (writes_text _)
    have hsettings := hways.settings (withImages_settingsOf n) (writes_text _)
    have hoption := hwords.toOption_bind
    rw [takenImages, hvariable.toOption_bind, htoml.toOption_bind, hjson.toOption_bind,
      hrequest.toOption_bind, hsettings.toOption_bind]
    exact congrArg (· :: _) hoption
  refine ⟨?_, ?_, ?_, ?_⟩
  · rw [htaken _ (by decide), if_pos (by decide)]
    rfl
  · rw [htaken _ (by decide), if_neg (by decide)]
  · have hline := (image_counted 9223372036854775808).tomlLine (by decide) Toml.lines_service
      (find_toml [] (String.ofList (linesOf 9223372036854775808)))
    rwa [Counts, if_neg (by decide)] at hline
  · have hnone : (Json.Number.ofInt (16 ^ 256)).quantity? = none := by
      rw [← Option.isNone_iff_eq_none]
      decide +kernel
    have hmember := (image_counted (16 ^ 256)).jsonMember hnone (.head _) (.head _)
      (writes_text (jsonDocument (16 ^ 256))) (find_json [] (jsonDocument (16 ^ 256)).text)
    rwa [Counts, if_neg (by decide)] at hmember

/-- The first number that 64 bits no longer hold, in a file of JSON: it is taken, for zero. -/
theorem image_counted_below_int64 :
    let n := -9223372036854775809
    let s := placeWith [] "c.json" "\x7b\"service\":\x7b\"images\":-9223372036854775809\x7d\x7d"
    File.find s "c.json" = .ok ⟨.json, "c.json", (jsonDocument n).text⟩ ∧
      (∃ settings, (resolve s (some "c.json")).1 = .ok settings ∧ settings.service.images = 0) ∧
      ¬ Counts n imagesOf (resolve s (some "c.json")).1 := by
  intro n s
  have htext : (jsonDocument n).text =
      "\x7b\"service\":\x7b\"images\":-9223372036854775809\x7d\x7d" := by cbv
  have hfind : File.find s "c.json" = .ok ⟨.json, "c.json", (jsonDocument n).text⟩ := by
    rw [htext]
    exact find_json [] _
  have hcount : jsonCount n = 0 := by decide +kernel
  have hcounts := counts_jsonText hfind (writes_text _) knownVariables_nil rfl
  rw [hcount, Counts, if_pos (by decide)] at hcounts
  obtain ⟨settings, k, hsettings, hk, hzero⟩ := hcounts
  have himages : settings.service.images = 0 := by
    obtain rfl := Option.some.inj hk
    exact UInt32.toNat_inj.1 (Int.ofNat_inj.1 hzero)
  refine ⟨hfind, ⟨settings, hsettings, himages⟩, fun h => ?_⟩
  rw [Counts, if_neg (by decide), hsettings] at h
  obtain ⟨e, he⟩ := h
  cases he

end KeyedImages
