import KeyedImages.Json.Encode
import KeyedImages.Proofs.Json.Layout
import KeyedImages.Proofs.MockService.Foreseen

/-! How the transcript of a session with a new stand-in is written, as text and as JSON. The name of
the client and the number of images tell all of it. -/
namespace KeyedImages

open Json Document

theorem Method.stringChars_name (m : Method) :
    stringChars m.name = '"' :: m.name.toList ++ ['"'] := by
  cases m <;> decide +kernel

theorem ImageId.text_eq_toString (id : ImageId) : id.text = toString id.number.toNat :=
  Text.Numeral.ofNat_eq_toString _

namespace Session

/-- How the calls of a session with a new stand-in are written, from how a call is written that
succeeds, and how the lookup that finds nothing and the call that is refused are. -/
def stepTexts (ok : String → String → String) (unfound refused name : String) (images : Nat) :
    List String :=
  [ok "Hello" ("Good to go " ++ name), ok "Auth" "key issued", ok "Noop" "",
    ok "GetServerTime" "0.000000000"] ++
  (List.range' 1 images).map (fun i => ok "PostImage" ("id " ++ toString i)) ++
  [unfound] ++
  (if images = 0 then [] else [ok "GetImage" "id 1: 0 bytes"]) ++
  [ok "Reset" "", refused]

/-- The lines of the text: one for each call, and a last one that sums them up. -/
def textLines (name : String) (images : Nat) : List String :=
  let calls := images + if images = 0 then 7 else 8
  stepTexts (fun method detail => method ++ " ok      " ++ detail)
      "GetImage failed  image not found" "GetServerTime failed  invalid service key" name images ++
    [toString calls ++ " calls, " ++ toString images ++ " images, key revoked: true"]

/-- A step as JSON, from how the field that goes with its status is written. -/
def stepJson (method status field value : String) : String :=
  "\x7b\n      \"method\": \"" ++ method ++ "\",\n      \"outcome\": \x7b\n" ++
    "        \"status\": \"" ++ status ++ "\",\n        \"" ++ field ++ "\": " ++ value ++
    "\n      \x7d\n    \x7d"

/-- The steps as JSON. What the service says is quoted, as the name of the client is in it. -/
def stepsJson (name : String) (images : Nat) : List String :=
  stepTexts
    (fun method detail => stepJson method "ok" "detail" (String.ofList (stringChars detail)))
    (stepJson "GetImage" "failed" "error" <|
      "\x7b\n          \"ImageNotFound\": \x7b\n            \"id\": 0\n          \x7d\n" ++
        "        \x7d")
    (stepJson "GetServerTime" "failed" "error" "\"InvalidKey\"") name images

/-- An array inside of an object, with its items on lines of their own. -/
def arrayJson (items : List String) : String :=
  if items.isEmpty then "[]" else "[\n    " ++ ",\n    ".intercalate items ++ "\n  ]"

/-- The transcript as JSON. -/
def transcriptJson (name : String) (images : Nat) : String :=
  "\x7b\n  \"steps\": " ++ arrayJson (stepsJson name images) ++
    ",\n  \"image_ids\": " ++ arrayJson ((List.range' 1 images).map toString) ++
    ",\n  \"server_time\": \x7b\n    \"seconds\": 0,\n    \"nanos\": 0\n  \x7d,\n" ++
    "  \"key_revoked\": true\n\x7d"

variable {name : String} {ids : List ImageId} {images : Nat}

theorem map_numbers {α : Type} (hids : ids.map (·.number.toNat) = List.range' 1 images)
    (f : Nat → α) : ids.map (fun id => f id.number.toNat) = (List.range' 1 images).map f := by
  rw [← hids, List.map_map]
  rfl

theorem map_head?_numbers {α : Type} (hids : ids.map (·.number.toNat) = List.range' 1 images)
    (f : Nat → α) : ids.head?.toList.map (fun id => f id.number.toNat) =
      if images = 0 then [] else [f 1] := by
  cases images with
  | zero => simp [List.map_eq_nil_iff.1 hids]
  | succ n =>
    cases ids with
    | nil => cases hids
    | cons first rest =>
      have hfirst : first.number.toNat = 1 := (List.cons.inj hids).1
      simp [hfirst]

/-- The steps are written by whatever writes the three kinds of them. -/
theorem map_steps_atStandIn {write : Step → String} {ok : String → String → String}
    {unfound refused : String} (hids : ids.map (·.number.toNat) = List.range' 1 images)
    (hok : ∀ m detail, write ⟨m, .ok detail⟩ = ok m.name detail)
    (hunfound : write ⟨.getImage, .failed (.imageNotFound ImageId.none)⟩ = unfound)
    (hrefused : write ⟨.getServerTime, .failed .invalidKey⟩ = refused) :
    (Transcript.atStandIn name ids true).steps.map write =
      stepTexts ok unfound refused name images := by
  have htime : Timestamp.zero.text = "0.000000000" := by decide +kernel
  have hposted := map_numbers hids fun i => ok "PostImage" ("id " ++ toString i)
  have hfound := map_head?_numbers hids fun i => ok "GetImage" ("id " ++ toString i ++ ": 0 bytes")
  have hfirst : "id " ++ toString 1 ++ ": 0 bytes" = "id 1: 0 bytes" := by decide +kernel
  rw [hfirst] at hfound
  simp only [Transcript.atStandIn, stepTexts, ImageId.text_eq_toString, List.map_append,
    List.map_map, List.map_cons, List.map_nil, Function.comp_def, hok, Method.name, hunfound,
    hrefused, htime, hposted, hfound, if_true]

theorem length_steps_atStandIn (hids : ids.map (·.number.toNat) = List.range' 1 images) :
    (Transcript.atStandIn name ids true).steps.length =
      images + if images = 0 then 7 else 8 := by
  have hlength : ids.length = images := by simpa using congrArg List.length hids
  subst hlength
  cases ids <;> simp [Transcript.atStandIn]

/-- The steps' lines stand in front of the last one. -/
theorem chars_eq_intercalate (steps : List Step) (last : List Char) :
    steps.flatMap (fun s => s.line ++ ['\n']) ++ last =
      ['\n'].intercalate (steps.map Step.line ++ [last]) := by
  induction steps with
  | nil => simp
  | cons s steps ih =>
    rw [List.map_cons, List.cons_append, List.intercalate_cons_of_ne_nil (by simp), ← ih]
    simp

theorem text_eq_intercalate (t : Transcript) : t.text = "\n".intercalate
    (t.steps.map (fun s => String.ofList s.line) ++ [String.ofList t.summary]) := by
  apply String.toList_injective
  simp [Transcript.text, Transcript.chars, chars_eq_intercalate, Function.comp_def]

theorem summary_atStandIn (hids : ids.map (·.number.toNat) = List.range' 1 images) :
    String.ofList (Transcript.atStandIn name ids true).summary =
      toString (images + if images = 0 then 7 else 8) ++ " calls, " ++ toString images ++
        " images, key revoked: true" := by
  have hlength : ids.length = images := by simpa using congrArg List.length hids
  apply String.toList_injective
  rw [Transcript.summary, length_steps_atStandIn hids]
  simp [Transcript.atStandIn, hlength, Text.Numeral.digits_eq_toDigits]

theorem text_atStandIn (hids : ids.map (·.number.toNat) = List.range' 1 images) :
    (Transcript.atStandIn name ids true).text = "\n".intercalate (textLines name images) := by
  rw [text_eq_intercalate, summary_atStandIn hids]
  refine congrArg (fun texts => "\n".intercalate (texts ++ _)) (map_steps_atStandIn hids ?_ ?_ ?_)
  · intro m detail
    apply String.toList_injective
    simp [Step.line]
  · decide +kernel
  · decide +kernel

theorem stepsJson_atStandIn (hids : ids.map (·.number.toNat) = List.range' 1 images) :
    (Transcript.atStandIn name ids true).steps.map (fun s => String.ofList (s.document.pretty 2)) =
      stepsJson name images := by
  refine map_steps_atStandIn hids ?_ (by decide +kernel) (by decide +kernel)
  intro m detail
  apply String.toList_injective
  unfold stepJson
  simp only [String.toList_append, String.toList_ofList]
  simp only [Step.document, Outcome.document, Method.document, pretty, prettyMembers,
    m.stringChars_name]
  simp [newLine, stringChars, escapeChar, List.replicate]

theorem pretty_array_one (ds : List Document) : (Document.array ds).pretty 1 =
    (arrayJson (ds.map fun d => String.ofList (d.pretty 2))).toList := by
  cases ds with
  | nil => simp [arrayJson, pretty]
  | cons d ds =>
    rw [pretty, prettyItems_eq 1 (List.cons_ne_nil d ds)]
    simp [arrayJson, newLine, List.replicate, Function.comp_def]

theorem pretty_fields (steps ids time revoked : Document) :
    (object [("steps", steps), ("image_ids", ids), ("server_time", time),
      ("key_revoked", revoked)]).pretty 0 =
      "\x7b\n  \"steps\": ".toList ++ steps.pretty 1 ++ ",\n  \"image_ids\": ".toList ++
        ids.pretty 1 ++ ",\n  \"server_time\": ".toList ++ time.pretty 1 ++
        ",\n  \"key_revoked\": ".toList ++ revoked.pretty 1 ++ "\n\x7d".toList := by
  simp [pretty, prettyMembers, newLine, stringChars, escapeChar, List.replicate]

theorem prettyText_atStandIn (hids : ids.map (·.number.toNat) = List.range' 1 images) :
    (Transcript.atStandIn name ids true).document.prettyText = transcriptJson name images := by
  have hposted : ids.map (fun id => String.ofList (id.document.pretty 2)) =
      (List.range' 1 images).map toString := by
    rw [← map_numbers hids toString]
    exact List.map_congr_left fun id _ => id.text_eq_toString
  have htime : Timestamp.zero.document.pretty 1 =
      "\x7b\n    \"seconds\": 0,\n    \"nanos\": 0\n  \x7d".toList := by decide +kernel
  have hrevoked : (Document.bool true).pretty 1 = "true".toList := rfl
  apply String.toList_injective
  unfold transcriptJson
  -- The members stay closed until the object around them is laid out.
  rw [prettyText, String.toList_ofList, Transcript.document, pretty_fields, pretty_array_one,
    pretty_array_one, List.map_map, List.map_map]
  simp only [Function.comp_def, stepsJson_atStandIn hids]
  simp [Transcript.atStandIn, hposted, htime, hrevoked]

end Session

end KeyedImages
