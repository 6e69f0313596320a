import KeyedImages.Proofs.Settings.Layers

/-! Resolving settings: each of the four is that of the highest layer that defines it, and the
layers do not get in each other's way. -/
namespace KeyedImages.Settings

namespace Reading

variable {key : String} {origin : Option String} {s : String} {n : UInt32}

theorem count_integer : count key (.scalar origin (.integer n.toNat)) = .ok n := by
  have hlt : n.toNat < UInt32.size := n.toNat_lt
  have hnonneg : ¬ (n.toNat : Int) < 0 := by omega
  simp only [count, if_neg hnonneg, Int.toNat_natCast, if_pos hlt, UInt32.ofNat_toNat]

theorem lowerChar_of_isDigit {c : Char} (h : c.isDigit = true) : lowerChar c = c := by
  simp only [Char.isDigit, Bool.and_eq_true, decide_eq_true_eq] at h
  have hkelvin : c ≠ '\u212a' := by
    rintro rfl
    exact absurd h.2 (by decide)
  rw [lowerChar, if_neg hkelvin, Char.toLower, dif_neg]
  rintro ⟨hupper, -⟩
  exact absurd (UInt32.le_trans hupper h.2) (by decide)

theorem lower_ofInt (n : Int) : lower (Text.Numeral.ofInt n) = Text.Numeral.ofInt n := by
  obtain ⟨c, ds, hsigned, hc, hds⟩ := Text.Numeral.exists_signed_eq_cons n
  have hfirst : lowerChar c = c := by
    rcases hc with rfl | hdigit
    · decide
    · exact lowerChar_of_isDigit hdigit
  have hrest : ∀ d ∈ ds, lowerChar d = d := fun d hd => lowerChar_of_isDigit (hds d hd)
  rw [lower, Text.Numeral.ofInt, String.toList_ofList, hsigned, List.map_cons, hfirst,
    List.map_congr_left hrest, List.map_id']

/-- A numeral is no word of letters. -/
theorem contains_ofInt (n : Int) {words : List String}
    (h : ∀ w ∈ words, w.toList.all (fun c => c != '-' && !c.isDigit) = true) :
    words.contains (Text.Numeral.ofInt n) = false := by
  obtain ⟨c, ds, hsigned, hc, -⟩ := Text.Numeral.exists_signed_eq_cons n
  apply Bool.eq_false_iff.2
  intro hmem
  have hletter := h _ (List.contains_iff_mem.1 hmem)
  rw [Text.Numeral.ofInt, String.toList_ofList, hsigned] at hletter
  rcases hc with rfl | hdigit
  · simp at hletter
  · simp [hdigit] at hletter

/-- The number of a numeral, where 64 bits hold it without a sign. -/
theorem number?_ofInt (n : Int) : number? (Text.Numeral.ofInt n) =
    if 0 ≤ n ∧ n < UInt64.size then some n.toNat else none := by
  rw [number?, lower_ofInt, contains_ofInt n (by decide), contains_ofInt n (by decide),
    Text.Numeral.ofInt, String.toList_ofList, Text.Numeral.below?_signed]
  rfl

theorem count_decimal :
    count key (.scalar origin (.string (Text.Numeral.ofNat n.toNat))) = .ok n := by
  have hlt : n.toNat < UInt32.size := n.toNat_lt
  have hread := number?_ofInt n.toNat
  rw [if_pos (by unfold UInt64.size UInt32.size at *; omega)] at hread
  change count key (.scalar origin (.string (Text.Numeral.ofInt n.toNat))) = _
  simp only [count, hread, Int.toNat_natCast, if_pos hlt, UInt32.ofNat_toNat]

/-- What is read of a setting, whatever its key and wherever it came from. -/
def Reads {α : Type} (read : Reading α) (value : Option Scalar) (result : Option α) : Prop :=
  ∀ key origin, (value.mapM fun v => read key (.scalar origin v)) = .ok result

theorem member?_of_found {α : Type} {read : Reading α} {t : Tree} {name : String}
    {value : Option Scalar} {result : Option α} (group : String) (hreads : Reads read value result)
    (hfound : Found? (t.get? name) value) : member? read group name t = .ok result := by
  have h := hreads (group ++ "." ++ name)
  unfold member?
  generalize t.get? name = found at hfound
  cases hfound with
  | nothing => exact h none
  | scalar origin v => exact h origin

theorem reads_key (k : Option String) : Reads string? (k.map .string) (k.map some) := by
  intro key origin
  cases k <;> rfl

theorem reads_string (s : String) : Reads string (some (.string s)) (some s) := fun _ _ => rfl

end Reading

section Join

variable {s : Surroundings} {document members : List (String × Tree)} {old new : Option Scalar}
  {e : VariableSetting} {inFile inVariables : Layer}

/-- A document with its layers below and above it. -/
def joined (s : Surroundings) (document : List (String × Tree)) : Tree :=
  ((Layers.defaults.setAll document).setAll (Layers.ofVariables s.environment)).setAll
    (Layers.direct.flatMap fun d => (Layers.ofDirect s d).1)

theorem ofName_service : Path.ofName "service" = ⟨"service", []⟩ := by cbv

theorem path_service : (Path.ofName "service").rest = [] := congrArg Path.rest ofName_service

theorem path_log : (Path.ofName "log").rest = [] := by cbv

/-- In the layers together, the higher one counts. -/
theorem found_joined (hvariables : KnownVariables s.environment)
    (he : e ∈ variableSettings) (hpath : (Path.ofName e.group).rest = [])
    (hgroup : HasGroup document e.group members) (hsaid : Says members e.name new)
    (hold : Found? (Layers.defaults.member? e.group e.name) old) :
    Found? ((joined s document).member? e.group e.name)
      (if "log" = e.group ∧ "level" = e.name then
        ((value? s.environment "LOG_LEVEL").map .string).or
          (((value? s.environment e.variableName).map .string).or (new.or old))
      else if "service" = e.group ∧ "key" = e.name then
        ((value? s.environment "SERVICE_KEY").map .string).or
          (((value? s.environment e.variableName).map .string).or (new.or old))
      else ((value? s.environment e.variableName).map .string).or (new.or old)) :=
  found_setAll_direct (found_setAll_variables hvariables.nodup hvariables.known he
    (found_setAll_document hgroup hpath hsaid hold))

theorem isGroup_joined {group : String} (hvariables : KnownVariables s.environment)
    (hpath : (Path.ofName group).rest = []) (hgroup : HasGroup document group members)
    (hold : Layers.defaults.IsGroup group) : (joined s document).IsGroup group :=
  isGroup_setAll_direct (isGroup_setAll_variables hvariables.known
    (isGroup_setAll_of_hasGroup hold hgroup hpath))

theorem map_or_some {α β : Type} (f : α → β) (o : Option α) (d : α) :
    (o.map f).or (some (f d)) = some (f (o.getD d)) := by
  cases o <;> rfl

/-- The key has no default. -/
theorem found_key (hdocument : inFile.InDocument document)
    (hvariables : inVariables.InVariables s.environment) :
    Found? ((joined s document).member? "service" "key")
      (((Layer.direct s.environment).key.or (inVariables.key.or inFile.key)).map .string) := by
  obtain ⟨service, log, hservice, -, hkey, -⟩ := hdocument
  have hkeyless : Found? (Layers.defaults.member? "service" "key") none := by
    rw [defaults_eq]
    exact .nothing
  have hfound := found_joined (e := ⟨"A_SYSTEM_SERVICE__KEY", "service", "key"⟩)
    hvariables.toKnownVariables (by decide) path_service hservice hkey hkeyless
  rw [if_neg (by decide), if_pos ⟨rfl, rfl⟩, hvariables.key, Option.or_none, ← Option.map_or,
    ← Option.map_or] at hfound
  exact hfound

theorem found_clientName (hdocument : inFile.InDocument document)
    (hvariables : inVariables.InVariables s.environment) :
    Found? ((joined s document).member? "service" "client_name")
      (some (.string ((inVariables.clientName.or inFile.clientName).getD "a-system"))) := by
  obtain ⟨service, log, hservice, -, -, hclientName, -⟩ := hdocument
  have hfound := found_joined (e := ⟨"A_SYSTEM_SERVICE__CLIENT_NAME", "service", "client_name"⟩)
    hvariables.toKnownVariables (by decide) path_service hservice hclientName
    (by rw [defaults_eq]; exact .scalar _ _)
  rw [if_neg (by decide), if_neg (by decide), hvariables.clientName, ← Option.or_assoc,
    ← Option.map_or, map_or_some] at hfound
  exact hfound

/-- The number of images is a numeral in a variable and a number everywhere else. -/
theorem found_images (hdocument : inFile.InDocument document)
    (hvariables : inVariables.InVariables s.environment) :
    ∃ v, Found? ((joined s document).member? "service" "images") (some v) ∧
      (v = .integer ((inVariables.images.or inFile.images).getD 2).toNat ∨
        v = .string (Text.Numeral.ofNat ((inVariables.images.or inFile.images).getD 2).toNat)) := by
  obtain ⟨service, log, hservice, -, -, -, himages, -⟩ := hdocument
  have hfound := found_joined (e := ⟨"A_SYSTEM_SERVICE__IMAGES", "service", "images"⟩)
    hvariables.toKnownVariables (by decide) path_service hservice himages
    (by rw [defaults_eq]; exact .scalar _ _)
  rw [if_neg (by decide), if_neg (by decide), hvariables.images] at hfound
  cases hv : inVariables.images with
  | some n => exact ⟨_, by rw [hv] at hfound; exact hfound, Or.inr rfl⟩
  | none =>
    cases hf : inFile.images with
    | some n => exact ⟨_, by rw [hv, hf] at hfound; exact hfound, Or.inl rfl⟩
    | none => exact ⟨_, by rw [hv, hf] at hfound; exact hfound, Or.inl rfl⟩

theorem found_level (hdocument : inFile.InDocument document)
    (hvariables : inVariables.InVariables s.environment) :
    Found? ((joined s document).member? "log" "level")
      (some (.string (((Layer.direct s.environment).level.or
        (inVariables.level.or inFile.level)).getD "info"))) := by
  obtain ⟨service, log, -, hlog, -, -, -, hlevel⟩ := hdocument
  have hfound := found_joined (e := ⟨"A_SYSTEM_LOG__LEVEL", "log", "level"⟩)
    hvariables.toKnownVariables (by decide) path_log hlog hlevel
    (by rw [defaults_eq]; exact .scalar _ _)
  rw [if_pos ⟨rfl, rfl⟩, hvariables.level, ← Option.or_assoc, ← Option.or_assoc, ← Option.map_or,
    ← Option.map_or, map_or_some, Option.or_assoc] at hfound
  exact hfound

end Join

/-- The settings of a tree whose groups show what is read of them are refused for the number of
images only. -/
theorem ofTree_count {t : Tree} {k : Option String} {clientName level : String} {images : Scalar}
    (hservice : t.IsGroup "service") (hlog : t.IsGroup "log")
    (hkey : Found? (t.member? "service" "key") (k.map .string))
    (hclientName : Found? (t.member? "service" "client_name") (some (.string clientName)))
    (himages : Found? (t.member? "service" "images") (some images))
    (hlevel : Found? (t.member? "log" "level") (some (.string level))) :
    ∃ origin, ofTree t = (Reading.count "service.images" (.scalar origin images)).map
      fun n => ⟨⟨k, clientName, n⟩, ⟨level⟩⟩ := by
  obtain ⟨o, ms, hservice⟩ := hservice
  obtain ⟨o', ms', hlog⟩ := hlog
  simp only [Tree.member?, hservice, hlog, Option.bind_some] at hkey hclientName himages hlevel
  have hk := Reading.member?_of_found "service" (Reading.reads_key k) hkey
  have hc := Reading.member?_of_found "service" (Reading.reads_string clientName)
    hclientName
  have hl := Reading.member?_of_found "log" (Reading.reads_string level) hlevel
  obtain ⟨origin, hi⟩ : ∃ origin,
      Tree.get? (.table o ms) "images" = some (.scalar origin images) := by
    cases hfound : Tree.get? (.table o ms) "images" with
    | none =>
      rw [hfound] at himages
      cases himages
    | some found =>
      rw [hfound] at himages
      cases himages
      exact ⟨_, rfl⟩
  have hg : Reading.log "log" (.table o' ms') = .ok ⟨level⟩ := by
    simp only [Reading.log, hl]
    rfl
  refine ⟨origin, ?_⟩
  have hs : Reading.service "service" (.table o ms) =
      (Reading.count "service.images" (.scalar origin images)).map fun n => ⟨k, clientName, n⟩ := by
    have hread : Reading.member? Reading.count "service" "images" (.table o ms) =
        some <$> Reading.count "service.images" (.scalar origin images) := by
      rw [Reading.member?, hi]
      rfl
    simp only [Reading.service, hk, hc, hread]
    cases Reading.count "service.images" (.scalar origin images) <;> cases k <;> rfl
  simp only [ofTree, hservice, hlog, Option.mapM_some, hs, hg]
  cases Reading.count "service.images" (.scalar origin images) <;> rfl

/-- The settings of a tree whose groups show what is read of them. -/
theorem ofTree_eq {t : Tree} {k : Option String} {clientName level : String} {images : Scalar}
    {n : UInt32} (hservice : t.IsGroup "service") (hlog : t.IsGroup "log")
    (hkey : Found? (t.member? "service" "key") (k.map .string))
    (hclientName : Found? (t.member? "service" "client_name") (some (.string clientName)))
    (himages : Found? (t.member? "service" "images") (some images))
    (hcount : images = .integer n.toNat ∨ images = .string (Text.Numeral.ofNat n.toNat))
    (hlevel : Found? (t.member? "log" "level") (some (.string level))) :
    ofTree t = .ok ⟨⟨k, clientName, n⟩, ⟨level⟩⟩ := by
  obtain ⟨origin, htree⟩ := ofTree_count hservice hlog hkey hclientName himages hlevel
  rw [htree]
  obtain rfl | rfl := hcount
  · rw [Reading.count_integer]
    rfl
  · rw [Reading.count_decimal]
    rfl

theorem findSome?_eq_or {α : Type} (a b c : Layer) (field : Layer → Option α) :
    [a, b, c].findSome? field = (field a).or ((field b).or (field c)) := by
  simp only [List.findSome?_cons, List.findSome?_nil]
  cases field a <;> cases field b <;> cases field c <;> rfl

/-- Settings are resolved whatever the layers define, and each setting by itself: it is that of the
highest layer that defines it, or else its default. From above, the layers are the two variables of
their own, the variables with the common beginning, and the file. What a layer says of one setting
has no bearing on another. -/
theorem highest_layer_counts (s : Surroundings) (file : Option String)
    {document : List (String × Tree)} {inFile inVariables : Layer}
    (hfile : Layers.ofFile s file = .ok document) (hdocument : inFile.InDocument document)
    (hvariables : inVariables.InVariables s.environment) :
    let layers := [Layer.direct s.environment, inVariables, inFile]
    (resolve s file).1 = .ok
      ⟨⟨layers.findSome? (·.key), (layers.findSome? (·.clientName)).getD "a-system",
        (layers.findSome? (·.images)).getD 2⟩, ⟨(layers.findSome? (·.level)).getD "info"⟩⟩ := by
  intro layers
  have hresolve : (resolve s file).1 = ofTree (joined s document) := by
    simp only [resolve, Layers.join, hfile]
    rfl
  have ⟨_, _, hservice, hlog, _⟩ := hdocument
  have hserviceGroup := isGroup_joined hvariables.toKnownVariables path_service hservice
    (by rw [defaults_eq]; exact ⟨_, _, rfl⟩)
  have hlogGroup := isGroup_joined hvariables.toKnownVariables path_log hlog
    (by rw [defaults_eq]; exact ⟨_, _, rfl⟩)
  obtain ⟨v, himages, hv⟩ := found_images hdocument hvariables
  rw [hresolve]
  simp only [layers, findSome?_eq_or, Layer.direct, Option.none_or]
  exact ofTree_eq hserviceGroup hlogGroup (found_key hdocument hvariables)
    (found_clientName hdocument hvariables) himages hv (found_level hdocument hvariables)

/-- A place with a file that gives a name, and with variables that give a key, a number and a level;
one of them is empty. -/
def place : Surroundings where
  directory := "/w"
  environment := [("SERVICE_KEY", ""), ("A_SYSTEM_SERVICE__IMAGES", "7"), ("HOME", "/"),
    ("LOG_LEVEL", "warn"), ("A_SYSTEM_SERVICE__KEY", "k")]
  file? path := if path = "c.toml" then some "[service]\nclient_name='c'" else none

theorem highest_layer_counts_mixed : ∃ document,
    Layers.ofFile place (some "c.toml") = .ok document ∧
    Layer.InDocument { clientName := some "c" } document ∧
    Layer.InVariables { key := some "k", images := some 7 } place.environment ∧
    (resolve place (some "c.toml")).1 = .ok ⟨⟨some "k", "c", 7⟩, ⟨"warn"⟩⟩ := by
  let members : List (String × Tree) := [("client_name", .scalar (some "c.toml") (.string "c"))]
  have hfile : Layers.ofFile place (some "c.toml") =
      .ok [("service", .table (some "c.toml") members)] := by cbv
  have hdocument : Layer.InDocument { clientName := some "c" }
      [("service", .table (some "c.toml") members)] := by
    have hservice : lower (Path.ofName "service").first = "service" := by decide +kernel
    have hclientName : lower "client_name" = "client_name" := by decide
    refine ⟨members, [], Or.inr ⟨some "c.toml", ?_⟩, Or.inl ⟨?_, rfl⟩,
      ⟨_, .nothing, ?_⟩, ⟨_, .scalar (some "c.toml") _, ?_⟩, ⟨_, .nothing, ?_⟩, ⟨_, .nothing, rfl⟩⟩
    · simp [Tree.under, hservice]
    · simp [Tree.under, hservice]
    · simp [members, hclientName]
    · simp [members, hclientName]
    · simp [members, hclientName]
  have hvariables : Layer.InVariables { key := some "k", images := some 7 } place.environment :=
    ⟨⟨by decide, by decide +kernel⟩, by decide, by decide, by decide +kernel, by decide⟩
  exact ⟨_, hfile, hdocument, hvariables,
    highest_layer_counts place (some "c.toml") hfile hdocument hvariables⟩

end KeyedImages.Settings
