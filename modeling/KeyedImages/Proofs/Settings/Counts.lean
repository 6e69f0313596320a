import KeyedImages.Proofs.CommandLine
import KeyedImages.Proofs.Json.Grammar
import KeyedImages.Proofs.Json.Large
import KeyedImages.Proofs.Settings.Resolved
import KeyedImages.Proofs.Toml.Number

/-! The number of images in all the ways in which it can be given: a number that 32 bits hold is
taken as it is, and any other one is refused, but for one way. -/
namespace KeyedImages.Settings

open Json (Document Writes decodeText)
open Text.Numeral (isInt64)

/-- What became of a number of images: it was taken as it is where 32 bits hold it, and refused
otherwise. -/
def Counts {ε α : Type} (n : Int) (images : α → Option UInt32) (result : Except ε α) : Prop :=
  if 0 ≤ n ∧ n < UInt32.size then
    ∃ a k, result = .ok a ∧ images a = some k ∧ (k.toNat : Int) = n
  else ∃ e, result = .error e

section Results

variable {ε α β : Type} {n : Int} {images : α → Option UInt32} {result : Except ε α}

theorem counts_of
    (hok : ∀ k : UInt32, (k.toNat : Int) = n → ∃ a, result = .ok a ∧ images a = some k)
    (hheld : ∀ a, result = .ok a → ∃ k : UInt32, (k.toNat : Int) = n) : Counts n images result := by
  unfold Counts
  split
  · next h =>
    have hk : ((UInt32.ofNat n.toNat).toNat : Int) = n := by
      rw [UInt32.toNat_ofNat_of_lt' (by omega)]
      omega
    obtain ⟨a, ha, hi⟩ := hok _ hk
    exact ⟨a, _, ha, hi, hk⟩
  · next h =>
    cases result with
    | error e => exact ⟨e, rfl⟩
    | ok a =>
      obtain ⟨k, rfl⟩ := hheld a rfl
      have hlt := k.toNat_lt_size
      exact absurd ⟨Int.natCast_nonneg _, by omega⟩ h

theorem Counts.toOption_bind (h : Counts n images result) : result.toOption.bind images =
    if 0 ≤ n ∧ n < UInt32.size then some (UInt32.ofNat n.toNat) else none := by
  unfold Counts at h
  split at h
  · next hn =>
    obtain ⟨a, k, rfl, ha, rfl⟩ := h
    rw [if_pos hn, Int.toNat_natCast, UInt32.ofNat_toNat]
    exact ha
  · next hn =>
    obtain ⟨e, rfl⟩ := h
    rw [if_neg hn]
    rfl

theorem Counts.map {f : α → β} {images' : β → Option UInt32} (h : Counts n images result)
    (hf : ∀ a, images' (f a) = images a) : Counts n images' (result.map f) := by
  unfold Counts at *
  split
  · next hn =>
    rw [if_pos hn] at h
    obtain ⟨a, k, rfl, ha, hk⟩ := h
    exact ⟨f a, k, rfl, (hf a).trans ha, hk⟩
  · next hn =>
    rw [if_neg hn] at h
    obtain ⟨e, rfl⟩ := h
    exact ⟨e, rfl⟩

end Results

section Reading

variable {n : Int} {key : String} {origin : Option String}

theorem counts_error {ε α : Type} {images : α → Option UInt32} {e : ε}
    (h : ¬ (0 ≤ n ∧ n < UInt32.size)) : Counts n images (.error e : Except ε α) := by
  rw [Counts, if_neg h]
  exact ⟨e, rfl⟩

theorem counts_bounded {ε : Type} {m : Nat} (hm : (m : Int) = n) (e : ε) :
    Counts n some (if m < UInt32.size then .ok (UInt32.ofNat m) else .error e) := by
  by_cases h : m < UInt32.size
  · rw [Counts, if_pos h, if_pos (by omega)]
    exact ⟨_, _, rfl, rfl, by rw [UInt32.toNat_ofNat_of_lt' h, hm]⟩
  · rw [if_neg h]
    exact counts_error (by omega)

theorem counts_integer (n : Int) :
    Counts n some (Reading.count key (.scalar origin (.integer n))) := by
  simp only [Reading.count]
  split
  · next h => exact counts_error (by omega)
  · next h => exact counts_bounded (Int.toNat_of_nonneg (Int.not_lt.1 h)) _

theorem counts_numeral (n : Int) :
    Counts n some (Reading.count key (.scalar origin (.string (Text.Numeral.ofInt n)))) := by
  simp only [Reading.count, Reading.number?_ofInt]
  by_cases h : 0 ≤ n ∧ n < UInt64.size
  · simp only [if_pos h]
    exact counts_bounded (Int.toNat_of_nonneg h.1) _
  · simp only [if_neg h]
    apply counts_error
    unfold UInt64.size UInt32.size at *
    omega

/-- A floating-point number that is too large for 32 bits is refused. -/
theorem counts_atLeast {f : Float} (h : Decimal.AtLeast 32 f) (hn : UInt32.size ≤ n) :
    Counts n some (Reading.count key (.scalar origin (.float f))) := by
  have hlarge : ¬ Decimal.nearestBelow UInt64.size f < UInt32.size :=
    Nat.not_lt.2 (h.le_nearestBelow (by decide))
  simp only [Reading.count, if_neg hlarge]
  exact counts_error fun h => Int.not_lt.2 hn h.2

/-- A whole number of a JSON file is taken or refused as it is, but below what 64 bits hold it
counts as zero. -/
theorem counts_quantity {q : Json.Quantity} (h : (Json.Number.ofInt n).quantity? = some q) :
    Counts (if n < Int64.minValue.toInt then 0 else n) some
      (Reading.count key (.scalar origin (ofQuantity q))) := by
  have hmin : Int64.minValue.toInt = -9223372036854775808 := rfl
  have hmax : Int64.maxValue.toInt = 9223372036854775807 := rfl
  rw [Json.Number.quantity?_ofInt] at h
  by_cases hheld : Int64.minValue.toInt ≤ n ∧ n < UInt64.size
  · rw [if_pos hheld] at h
    obtain rfl := Option.some.inj h
    rw [if_neg (Int.not_lt.2 hheld.1), ofQuantity]
    by_cases hsmall : isInt64 n = true
    · rw [if_pos hsmall]
      exact counts_integer n
    · have hlarge : 9223372036854775808 ≤ n := by
        rw [isInt64, Bool.and_eq_true, decide_eq_true_eq, decide_eq_true_eq] at hsmall
        omega
      have hnat : 2 ^ 32 ≤ (UInt64.ofNat n.toNat).toNat := by
        rw [UInt64.toNat_ofNat_of_lt' (by unfold UInt64.size at *; omega)]
        omega
      rw [if_neg hsmall]
      exact counts_atLeast (Decimal.atLeast_toFloat hnat) (by unfold UInt32.size; omega)
  · have hfar : 2 ^ 63 ≤ n.natAbs := by
      unfold UInt64.size at hheld
      omega
    rw [if_neg hheld] at h
    obtain ⟨f, hf, rfl⟩ := Option.map_eq_some_iff.1 h
    rcases Json.Number.float?_ofInt hfar with hnone | ⟨g, hg, hsome⟩
    · rw [hnone] at hf
      cases hf
    · rw [hsome] at hf
      obtain rfl := Option.some.inj hf
      by_cases hneg : n < 0
      · have hzero : Reading.count key (.scalar origin (.float (-g))) = .ok 0 := by
          simp only [Reading.count, hg.nearestBelow_neg]
          rfl
        rw [if_pos (by omega), if_pos hneg, ofQuantity, hzero, Counts, if_pos (by decide)]
        exact ⟨0, 0, rfl, rfl, rfl⟩
      · rw [if_neg (by omega), if_neg hneg, ofQuantity]
        exact counts_atLeast hg (by unfold UInt32.size; omega)

end Reading

section Resolve

variable {s : Surroundings} {file : Option String} {document : List (String × Tree)}
  {given : Option Scalar} {n : Int}

/-- The variable of the number of images. -/
def imagesVariable : String := "A_SYSTEM_SERVICE__IMAGES"

/-- A document gives a scalar for the number of images, and texts for the other settings. Each may
be left out. -/
def GivesImages (document : List (String × Tree)) (given : Option Scalar) : Prop :=
  ∃ service log, ∃ key clientName level : Option String,
    HasGroup document "service" service ∧ HasGroup document "log" log ∧
    Says service "key" (key.map .string) ∧ Says service "client_name" (clientName.map .string) ∧
    Says service "images" given ∧ Says log "level" (level.map .string)

/-- What counts as the number of images: that of the variable, or else that of the document, or else
the default. -/
def effectiveImages (environment : Environment) (given : Option Scalar) : Scalar :=
  (((value? environment imagesVariable).map .string).or given).getD (.integer 2)

/-- Where the other settings can be read, settings are resolved just if the number of images can be
read. -/
theorem resolve_count (hfile : Layers.ofFile s file = .ok document)
    (hdocument : GivesImages document given) (hvariables : KnownVariables s.environment) :
    ∃ settings : UInt32 → Settings, (∀ n, (settings n).service.images = n) ∧
      ∃ origin, (resolve s file).1 = (Reading.count "service.images"
        (.scalar origin (effectiveImages s.environment given))).map settings := by
  obtain ⟨service, log, key, clientName, level, hservice, hlog, hkey, hclientName, himages,
    hlevel⟩ := hdocument
  have hresolve : (resolve s file).1 = ofTree (joined s document) := by
    simp only [resolve, Layers.join, hfile]
    rfl
  have hserviceGroup := isGroup_joined hvariables path_service hservice
    (by rw [defaults_eq]; exact ⟨_, _, rfl⟩)
  have hlogGroup := isGroup_joined hvariables path_log hlog
    (by rw [defaults_eq]; exact ⟨_, _, rfl⟩)
  have hkey := found_joined (e := ⟨"A_SYSTEM_SERVICE__KEY", "service", "key"⟩) hvariables
    (by decide) path_service hservice hkey (by rw [defaults_eq]; exact .nothing)
  have hclientName := found_joined
    (e := ⟨"A_SYSTEM_SERVICE__CLIENT_NAME", "service", "client_name"⟩) hvariables (by decide)
    path_service hservice hclientName (by rw [defaults_eq]; exact .scalar _ _)
  have himages := found_joined (e := ⟨imagesVariable, "service", "images"⟩) hvariables
    (by decide) path_service hservice himages (by rw [defaults_eq]; exact .scalar _ _)
  have hlevel := found_joined (e := ⟨"A_SYSTEM_LOG__LEVEL", "log", "level"⟩) hvariables
    (by decide) path_log hlog hlevel (by rw [defaults_eq]; exact .scalar _ _)
  rw [if_neg (by decide), if_pos ⟨rfl, rfl⟩, Option.or_none, ← Option.map_or,
    ← Option.map_or] at hkey
  rw [if_neg (by decide), if_neg (by decide), ← Option.or_assoc, ← Option.map_or,
    map_or_some] at hclientName
  rw [if_neg (by decide), if_neg (by decide), ← Option.or_assoc, Option.or_some] at himages
  rw [if_pos ⟨rfl, rfl⟩, ← Option.or_assoc, ← Option.or_assoc, ← Option.map_or, ← Option.map_or,
    map_or_some] at hlevel
  obtain ⟨origin, htree⟩ := ofTree_count hserviceGroup hlogGroup hkey hclientName himages hlevel
  exact ⟨_, fun _ => rfl, origin, hresolve.trans htree⟩

/-- The number of images of settings. -/
def imagesOf (settings : Settings) : Option UInt32 := some settings.service.images

theorem counts_resolve {m : Int} (hfile : Layers.ofFile s file = .ok document)
    (hdocument : GivesImages document given) (hvariables : KnownVariables s.environment)
    (hcount : ∀ origin, Counts m some (Reading.count "service.images"
      (.scalar origin (effectiveImages s.environment given)))) :
    Counts m imagesOf (resolve s file).1 := by
  obtain ⟨settings, himages, origin, hresolve⟩ := resolve_count hfile hdocument hvariables
  rw [hresolve]
  exact (hcount origin).map fun k => congrArg some (himages k)

theorem counts_of_variable (hfile : Layers.ofFile s file = .ok document)
    (hdocument : GivesImages document given) (hvariables : KnownVariables s.environment)
    (hvalue : value? s.environment imagesVariable = some (Text.Numeral.ofInt n)) :
    Counts n imagesOf (resolve s file).1 := by
  refine counts_resolve hfile hdocument hvariables fun origin => ?_
  rw [effectiveImages, hvalue]
  exact counts_numeral n

/-- Where the variable is not set, the number of the document counts. -/
theorem counts_of_document {m : Int} {v : Scalar} (hfile : Layers.ofFile s file = .ok document)
    (hdocument : GivesImages document (some v)) (hvariables : KnownVariables s.environment)
    (hvalue : value? s.environment imagesVariable = none)
    (hcount : ∀ origin, Counts m some (Reading.count "service.images" (.scalar origin v))) :
    Counts m imagesOf (resolve s file).1 := by
  refine counts_resolve hfile hdocument hvariables fun origin => ?_
  rw [effectiveImages, hvalue]
  exact hcount origin

/-- The members of a document that gives the number of images alone. -/
def imagesAlone (origin : Option String) (v : Scalar) : List (String × Tree) :=
  [("service", .table origin [("images", .scalar origin v)])]

theorem givesImages_alone (origin : Option String) (v : Scalar) :
    GivesImages (imagesAlone origin v) (some v) := by
  have hservice : lower (Path.ofName "service").first = "service" := by
    rw [ofName_service]
    decide
  have himages : lower "images" = "images" := by decide
  refine ⟨[("images", .scalar origin v)], [], none, none, none, Or.inr ⟨origin, ?_⟩,
    Or.inl ⟨?_, rfl⟩, ⟨_, .nothing, ?_⟩, ⟨_, .nothing, ?_⟩, ⟨_, .scalar origin v, ?_⟩,
    ⟨_, .nothing, rfl⟩⟩
  · simp [imagesAlone, Tree.under, hservice]
  · simp [imagesAlone, Tree.under, hservice]
  · simp [himages]
  · simp [himages]
  · simp [himages]

/-- A file that cannot be read makes settings fail. -/
theorem counts_malformed {name : String} {f : File} (hfind : File.find s name = .ok f)
    (hread : f.read = .error .malformedFile) (hn : ¬ (0 ≤ n ∧ n < UInt32.size)) :
    Counts n imagesOf (resolve s (some name)).1 := by
  have hfile : Layers.ofFile s (some name) = .error .malformedFile := by
    rw [Layers.ofFile, hfind]
    exact hread
  have hresolve : (resolve s (some name)).1 = .error .malformedFile := by
    rw [resolve, Layers.join, hfile]
    rfl
  rw [hresolve]
  exact counts_error hn

/-- The text of a TOML file that gives the number of images alone. -/
def tomlText (n : Int) : String := "[service]\nimages = " ++ Text.Numeral.ofInt n ++ "\n"

theorem toList_tomlText (n : Int) : (tomlText n).toList =
    "[service]\n".toList ++ ("images = ".toList ++ (Text.Numeral.signed n ++ ['\n'])) := by
  have hstart : "[service]\nimages = " = "[service]\n" ++ "images = " := by cbv
  have hend : "\n".toList = ['\n'] := by decide
  unfold tomlText Text.Numeral.ofInt
  simp only [hstart, String.toList_append, String.toList_ofList, hend, List.append_assoc]

/-- A text that starts with no mark is read as it stands. -/
theorem read_unmarked {origin text : String} {c : Char} {cs : List Char}
    (h : text.toList = c :: cs) (hc : c ≠ '\ufeff') :
    File.read ⟨.toml, origin, text⟩ = ((Toml.read? (c :: cs)).map (ofTomlMembers origin)).elim
      (.error .malformedFile) .ok ∧
    File.read ⟨.json, origin, text⟩ = (readJson? origin (c :: cs)).elim
      (.error .malformedFile) .ok := by
  constructor
  · simp only [File.read, h, List.cons.injEq, hc, false_and, imp_self, implies_true]
    cases Toml.read? (c :: cs) <;> rfl
  · simp only [File.read, h, List.cons.injEq, hc, false_and, imp_self, implies_true]
    cases readJson? origin (c :: cs) <;> rfl

theorem read_tomlText (origin : String) (n : Int) :
    File.read ⟨.toml, origin, tomlText n⟩ =
      if isInt64 n then .ok (imagesAlone origin (.integer n)) else .error .malformedFile := by
  have hstart : "[service]\n".toList = '[' :: "service]\n".toList := by decide
  have htext := toList_tomlText n
  have hread := Toml.read?_section n
  rw [hstart, List.cons_append] at htext hread
  rw [(read_unmarked htext (by decide)).1, hread]
  split <;> rfl

/-- The document of a JSON file that gives the number of images alone. -/
def jsonDocument (n : Int) : Document := .object [("service", .object [("images", .number n)])]

theorem exists_eq_cons_of_object {members : List (String × Document)} {cs : List Char}
    (h : Writes (Document.object members).tokens cs) : ∃ c ds, cs = c :: ds ∧ c ≠ '\ufeff' := by
  obtain ⟨c, ds, rfl, hfirst⟩ := h.exists_eq_cons_of_openObject
  refine ⟨c, ds, rfl, ?_⟩
  rintro rfl
  exact absurd hfirst (by decide)

theorem read_jsonText {origin text : String} {n : Int} {q : Json.Quantity}
    (h : Writes (jsonDocument n).tokens text.toList)
    (hq : (Json.Number.ofInt n).quantity? = some q) :
    File.read ⟨.json, origin, text⟩ = .ok (imagesAlone origin (ofQuantity q)) := by
  obtain ⟨c, cs, htext, hc⟩ := exists_eq_cons_of_object h
  rw [(read_unmarked htext hc).2, readJson?, ← htext, Json.Fragment.read_of_writes h]
  simp [jsonDocument, Document.fragment, Document.memberFragments, Json.Fragment.canKeep,
    Json.Fragment.canKeepMembers, Json.Fragment.depthLimit, hq, ofJsonMembers, ofJson, imagesAlone,
    Members.put]

/-- An object one of whose members cannot be kept cannot be kept. -/
theorem canKeep_object {members : List (String × Document)} {key : String} {d : Document}
    (hmem : (key, d) ∈ members) (hd : ∀ opened, d.fragment.canKeep opened = false) (opened : Nat) :
    (Document.object members).fragment.canKeep opened = false := by
  have hmembers : Json.Fragment.canKeepMembers (opened + 1) (Document.memberFragments members) =
      false := by
    induction members with
    | nil => cases hmem
    | cons m members ih =>
      rw [Document.memberFragments, Json.Fragment.canKeepMembers]
      rcases List.mem_cons.1 hmem with rfl | hrest
      · rw [hd, Bool.and_false, Bool.false_and]
      · rw [ih hrest, Bool.and_false]
  rw [Document.fragment, Json.Fragment.canKeep, hmembers, Bool.and_false]

/-- A file of JSON with a member for a number that is not even a floating-point number is refused,
whatever the other members. -/
theorem counts_jsonMember {name origin text : String} {members service : List (String × Document)}
    (hn : (Json.Number.ofInt n).quantity? = none)
    (hservice : ("service", .object service) ∈ members)
    (himages : ("images", .number n) ∈ service)
    (hwrites : Writes (Document.object members).tokens text.toList)
    (hfind : File.find s name = .ok ⟨.json, origin, text⟩) :
    Counts n imagesOf (resolve s (some name)).1 := by
  have hnumber : ∀ opened, (Document.number n).fragment.canKeep opened = false := by
    intro opened
    rw [Document.fragment, Json.Fragment.canKeep, hn]
    rfl
  have hkeep := canKeep_object hservice (canKeep_object himages hnumber) 0
  have hnone : readJson? origin text.toList = none := by
    rw [Document.fragment] at hkeep
    simp [readJson?, Json.Fragment.read_of_writes hwrites, Document.fragment, hkeep]
  obtain ⟨c, cs, htext, hc⟩ := exists_eq_cons_of_object hwrites
  have hread : File.read ⟨.json, origin, text⟩ = _ := (read_unmarked htext hc).2
  rw [← htext, hnone] at hread
  refine counts_malformed hfind hread fun hcounted => ?_
  rw [Json.Number.quantity?_ofInt, Int64.toInt_minValue, if_pos] at hn
  · cases hn
  · unfold UInt32.size UInt64.size at *
    omega

/-- What the number of a JSON file counts as: below what 64 bits hold, it is zero where it is a
floating-point number at all. -/
def jsonCount (n : Int) : Int :=
  if n < Int64.minValue.toInt ∧ (Json.Number.ofInt n).quantity?.isSome then 0 else n

theorem counts_of_quantity {q : Json.Quantity} (hfile : Layers.ofFile s file = .ok document)
    (hdocument : GivesImages document (some (ofQuantity q)))
    (hquantity : (Json.Number.ofInt n).quantity? = some q)
    (hvariables : KnownVariables s.environment)
    (hvalue : value? s.environment imagesVariable = none) :
    Counts (jsonCount n) imagesOf (resolve s file).1 := by
  refine counts_of_document hfile hdocument hvariables hvalue fun _ => ?_
  simpa [jsonCount, hquantity] using counts_quantity hquantity

theorem not_counted_of_isInt64 (hn : isInt64 n = false) : ¬ (0 ≤ n ∧ n < UInt32.size) := by
  rw [isInt64, Int64.toInt_minValue, Int64.toInt_maxValue, Bool.and_eq_false_iff,
    decide_eq_false_iff_not, decide_eq_false_iff_not] at hn
  unfold UInt32.size
  omega

/-- A file of TOML with a line for a number that 64 bits do not hold is refused, whatever the other
lines. -/
theorem counts_tomlLine {name origin : String} {before after : List Char}
    {ss : List (Option Toml.Statement)} (hn : isInt64 n = false) (hbefore : Toml.Lines before ss)
    (hfind : File.find s name = .ok ⟨.toml, origin, String.ofList
      (before ++ ("images = ".toList ++ (Text.Numeral.signed n ++ '\n' :: after)))⟩) :
    Counts n imagesOf (resolve s (some name)).1 := by
  obtain ⟨c, cs, htext, -, hc⟩ :=
    hbefore.starts (Toml.starts_images (Text.Numeral.signed n ++ '\n' :: after))
  have hnone : Toml.read? (before ++ ("images = ".toList ++
      (Text.Numeral.signed n ++ '\n' :: after))) = none := Toml.read?_eq_none hbefore hn
  rw [htext] at hfind hnone
  have hread : File.read ⟨.toml, origin, String.ofList (c :: cs)⟩ = _ :=
    (read_unmarked String.toList_ofList hc).1
  rw [hnone] at hread
  exact counts_malformed hfind hread (not_counted_of_isInt64 hn)

theorem counts_tomlText {name origin : String}
    (hfind : File.find s name = .ok ⟨.toml, origin, tomlText n⟩)
    (hvariables : KnownVariables s.environment)
    (hvalue : value? s.environment imagesVariable = none) :
    Counts n imagesOf (resolve s (some name)).1 := by
  have hread := read_tomlText origin n
  by_cases h : isInt64 n = true
  · rw [if_pos h] at hread
    have hfile : Layers.ofFile s (some name) = .ok (imagesAlone origin (.integer n)) := by
      rw [Layers.ofFile, hfind]
      exact hread
    exact counts_of_document hfile (givesImages_alone _ _) hvariables hvalue fun _ =>
      counts_integer n
  · rw [if_neg h] at hread
    exact counts_malformed hfind hread (not_counted_of_isInt64 (Bool.eq_false_iff.2 h))

theorem counts_jsonText {name origin text : String}
    (hfind : File.find s name = .ok ⟨.json, origin, text⟩)
    (hwrites : Writes (jsonDocument n).tokens text.toList)
    (hvariables : KnownVariables s.environment)
    (hvalue : value? s.environment imagesVariable = none) :
    Counts (jsonCount n) imagesOf (resolve s (some name)).1 := by
  cases hq : (Json.Number.ofInt n).quantity? with
  | some q =>
    have hfile : Layers.ofFile s (some name) = .ok (imagesAlone origin (ofQuantity q)) := by
      rw [Layers.ofFile, hfind]
      exact read_jsonText hwrites hq
    exact counts_of_quantity hfile (givesImages_alone _ _) hq hvariables hvalue
  | none =>
    have hcount : jsonCount n = n := by simp [jsonCount, hq]
    rw [hcount]
    exact counts_jsonMember hq (.head _) (.head _) hwrites hfind

end Resolve

end KeyedImages.Settings
