import KeyedImages.Proofs.Settings.Writing
import KeyedImages.Proofs.Text.Numeral
import KeyedImages.Settings.Resolve
import Mathlib

/-! Settings in layers: each is what the highest layer that has a say in it says. -/
namespace KeyedImages.Settings

/-- What one layer says of the settings. -/
structure Layer where
  key : Option String := none
  clientName : Option String := none
  images : Option UInt32 := none
  level : Option String := none
  deriving DecidableEq, Repr

/-- What is found for a setting: nothing, or a scalar that came from anywhere. -/
inductive Found? : Option Tree → Option Scalar → Prop
  | nothing : Found? none none
  | scalar (origin : Option String) (v : Scalar) : Found? (some (.scalar origin v)) (some v)

/-- A document has a group under just its own name, with the given members, or leaves it out. -/
def HasGroup (document : List (String × Tree)) (group : String)
    (members : List (String × Tree)) : Prop :=
  (document.filter (Tree.under group) = [] ∧ members = []) ∨
    ∃ origin, document.filter (Tree.under group) = [(group, .table origin members)]

/-- A group gives a scalar to a name under just this name, or leaves it out. -/
def Says (members : List (String × Tree)) (name : String) (value : Option Scalar) : Prop :=
  ∃ found : Option Tree, Found? found value ∧
    members.filter (fun m => lower m.1 = name) = (found.map fun t => (name, t)).toList

/-- The value of a variable, where an empty one counts as none. -/
def value? (environment : Environment) (variableName : String) : Option String :=
  (environment.lookup variableName).filter (· ≠ "")

/-- A variable with the common beginning, and the setting that it stands for. -/
structure VariableSetting where
  variableName : String
  group : String
  name : String
  deriving DecidableEq, Repr

/-- The variables with the common beginning that stand for settings. -/
def variableSettings : List VariableSetting :=
  [⟨"A_SYSTEM_SERVICE__KEY", "service", "key"⟩,
    ⟨"A_SYSTEM_SERVICE__CLIENT_NAME", "service", "client_name"⟩,
    ⟨"A_SYSTEM_SERVICE__IMAGES", "service", "images"⟩,
    ⟨"A_SYSTEM_LOG__LEVEL", "log", "level"⟩]

/-- The variables with the common beginning are those of settings, whatever their case, and each is
set once. -/
structure KnownVariables (environment : Environment) : Prop where
  nodup : (environment.map Prod.fst).Nodup
  known : ∀ v ∈ environment, "a_system_".toList <+: (lower v.1).toList →
    ∃ e ∈ variableSettings, e.variableName = v.1

namespace Layer

/-- What a document says of the settings. What else is in it does not matter. -/
def InDocument (l : Layer) (document : List (String × Tree)) : Prop :=
  ∃ service log, HasGroup document "service" service ∧ HasGroup document "log" log ∧
    Says service "key" (l.key.map .string) ∧
    Says service "client_name" (l.clientName.map .string) ∧
    Says service "images" (l.images.map fun n => .integer n.toNat) ∧
    Says log "level" (l.level.map .string)

/-- What the variables with the common beginning say. There are no others, whatever their case. -/
structure InVariables (l : Layer) (environment : Environment) : Prop
    extends KnownVariables environment where
  key : value? environment "A_SYSTEM_SERVICE__KEY" = l.key
  clientName : value? environment "A_SYSTEM_SERVICE__CLIENT_NAME" = l.clientName
  images : value? environment "A_SYSTEM_SERVICE__IMAGES" =
    l.images.map fun n => Text.Numeral.ofNat n.toNat
  level : value? environment "A_SYSTEM_LOG__LEVEL" = l.level

/-- What the two variables of their own say. -/
def direct (environment : Environment) : Layer :=
  { key := value? environment "SERVICE_KEY", level := value? environment "LOG_LEVEL" }

end Layer

section Document

variable {t : Tree} {document members : List (String × Tree)} {group name : String}
  {old new : Option Scalar}

/-- The members that a document gives to a group are written over those that the group has. -/
theorem member?_setAll_of_hasGroup (hgroup : HasGroup document group members)
    (hpath : (Path.ofName group).rest = []) : (t.setAll document).member? group name =
      (members.filter fun m => lower m.1 = name).foldl (fun old m => some (Tree.overlay old m.2))
        (t.member? group name) := by
  unfold Tree.member?
  rw [Tree.get?_setAll]
  rcases hgroup with ⟨hnone, rfl⟩ | ⟨origin, hsome⟩
  · rw [hnone]
    rfl
  · rw [hsome, List.foldl_cons, List.foldl_nil, hpath, Tree.stepped, Tree.overlay, Option.bind_some,
      Tree.get?_assignAll]
    cases t.get? group <;> rfl

theorem isGroup_setAll_of_hasGroup (h : t.IsGroup group) (hgroup : HasGroup document group members)
    (hpath : (Path.ofName group).rest = []) : (t.setAll document).IsGroup group := by
  unfold Tree.IsGroup at *
  rw [Tree.get?_setAll]
  rcases hgroup with ⟨hnone, -⟩ | ⟨origin, hsome⟩
  · rw [hnone]
    exact h
  · rw [hsome, List.foldl_cons, List.foldl_nil, hpath, Tree.stepped, Tree.overlay]
    obtain ⟨origin', members', hold⟩ := h
    rw [hold]
    obtain ⟨o, ms, hnew⟩ := Tree.isTable_assignAll members
      ⟨origin', members', rfl⟩
    exact ⟨o, ms, congrArg some hnew⟩

/-- A document has a say in the settings that it gives, and in no others of their group. -/
theorem found_setAll_document (hgroup : HasGroup document group members)
    (hpath : (Path.ofName group).rest = []) (hsaid : Says members name new)
    (hold : Found? (t.member? group name) old) :
    Found? ((t.setAll document).member? group name) (new.or old) := by
  rw [member?_setAll_of_hasGroup hgroup hpath]
  obtain ⟨found, hfound, hfilter⟩ := hsaid
  rw [hfilter]
  cases hfound with
  | nothing => exact hold
  | scalar origin v => exact .scalar origin v

end Document

section Entry

variable {t : Tree} {path : Path} {origin : Option String} {v : Scalar} {group name : String}
  {old : Option Scalar}

/-- A scalar that is written at the name of a setting is the setting's, and no other's. -/
theorem member?_set {memberName : String} (hrest : path.rest = [.name memberName]) :
    (t.set path (.scalar origin v)).member? group name =
      if lower path.first = group ∧ lower memberName = name then some (.scalar origin v)
      else t.member? group name := by
  unfold Tree.member?
  rw [Tree.get?_set]
  by_cases hgroup : lower path.first = group
  · rw [if_pos hgroup, hrest, Tree.stepped, Tree.write, Option.bind_some, Tree.get?_assign]
    by_cases hname : lower memberName = name
    · rw [if_pos hname, if_pos ⟨hgroup, hname⟩, Tree.overlay]
      simp
    · rw [if_neg hname, if_neg fun h => hname h.2]
      cases t.get? group <;> rfl
  · rw [if_neg hgroup, if_neg fun h => hgroup h.1]

theorem isGroup_set {memberName : String} {v : Tree} (hrest : path.rest = [.name memberName])
    (h : t.IsGroup group) : (t.set path v).IsGroup group := by
  unfold Tree.IsGroup at *
  rw [Tree.get?_set]
  split
  · rw [hrest, Tree.stepped, Tree.write]
    obtain ⟨o, ms, hnew⟩ := Tree.isTable_assign ((t.get? group).getD .nil) memberName v
    exact ⟨o, ms, congrArg some hnew⟩
  · exact h

end Entry

section Variables

variable {t : Tree} {environment : Environment} {old : Option Scalar} {e : VariableSetting}

theorem value?_singleton (name value other : String) : value? [(name, value)] other =
    if other = name ∧ value ≠ "" then some value else none := by
  by_cases h : other = name
  · subst h
    by_cases hempty : value = "" <;> simp [value?, hempty]
  · have hbeq : (other == name) = false := beq_eq_false_iff_ne.2 h
    rw [value?, List.lookup_cons, hbeq, if_neg fun h' => h h'.1]
    rfl

theorem value?_cons {name value : String} (h : name ∉ environment.map Prod.fst) (other : String) :
    value? ((name, value) :: environment) other =
      (value? environment other).or (value? [(name, value)] other) := by
  by_cases heq : other = name
  · have hlookup : environment.lookup other = none := by
      rw [List.lookup_eq_none_iff]
      intro p hp
      apply bne_iff_ne.2
      rintro rfl
      exact h (heq ▸ List.mem_map_of_mem hp)
    simp [value?, heq ▸ hlookup, heq]
  · have hbeq : (other == name) = false := beq_eq_false_iff_ne.2 heq
    rw [value?_singleton, if_neg fun h' => heq h'.1, Option.or_none, value?, List.lookup_cons, hbeq,
      value?]

/-- The name of the setting of a variable that begins as it must. -/
def settingName (name : String) : String :=
  String.ofList (Layers.withPoints ((lower name).toList.drop "a_system_".toList.length))

theorem ofVariable?_eq (name value : String) : Layers.ofVariable? name value =
    if value ≠ "" ∧ "a_system_".toList <+: (lower name).toList then
      some (settingName name, .scalar (some "the environment") (.string value))
    else none := by
  have hstart : (lower variableStart).toList ++ ['_'] = "a_system_".toList := by cbv
  unfold Layers.ofVariable? settingName
  simp only [hstart, Bool.and_eq_true, decide_eq_true_eq, List.isPrefixOf_iff_prefix]

/-- The name of a known variable begins as it must, and leads to its setting. -/
theorem variableSetting_facts (he : e ∈ variableSettings) :
    "a_system_".toList <+: (lower e.variableName).toList ∧
      Path.ofName (settingName e.variableName) = ⟨e.group, [.name e.name]⟩ ∧
      lower e.group = e.group ∧ lower e.name = e.name := by
  have all : ∀ e ∈ variableSettings, "a_system_".toList <+: (lower e.variableName).toList ∧
      Path.ofName (settingName e.variableName) = ⟨e.group, [.name e.name]⟩ ∧
      lower e.group = e.group ∧ lower e.name = e.name := by decide +kernel
  exact all e he

/-- Different variables have different names, and stand for different settings. -/
theorem variableSetting_ext {e' : VariableSetting} (he : e ∈ variableSettings)
    (he' : e' ∈ variableSettings)
    (h : e.variableName = e'.variableName ∨ e.group = e'.group ∧ e.name = e'.name) : e = e' := by
  have all : ∀ e ∈ variableSettings, ∀ e' ∈ variableSettings,
      (e.variableName = e'.variableName ∨ e.group = e'.group ∧ e.name = e'.name) → e = e' := by
    decide
  exact all e he e' he' h

theorem ofVariables_cons (name value : String) :
    Layers.ofVariables ((name, value) :: environment) =
      (Layers.ofVariable? name value).toList ++ Layers.ofVariables environment := by
  simp only [Layers.ofVariables, List.filterMap_cons]
  cases Layers.ofVariable? name value <;> rfl

/-- A variable that is not empty is written at its setting. -/
theorem member?_set_variable {e' : VariableSetting} {origin : Option String} {v : Scalar}
    (he : e ∈ variableSettings) (he' : e' ∈ variableSettings) :
    (t.set (Path.ofName (settingName e'.variableName)) (.scalar origin v)).member? e.group e.name =
      if e = e' then some (.scalar origin v) else t.member? e.group e.name := by
  obtain ⟨-, hpath, hgroup, hname⟩ := variableSetting_facts he'
  rw [hpath, member?_set rfl]
  dsimp only
  rw [hgroup, hname]
  by_cases h : e = e'
  · rw [if_pos h, if_pos ⟨congrArg _ h.symm, congrArg _ h.symm⟩]
  · rw [if_neg h, if_neg]
    rintro ⟨hg, hn⟩
    exact h (variableSetting_ext he he' (Or.inr ⟨hg.symm, hn.symm⟩))

/-- A variable has a say in the setting that it stands for, and in no other. -/
theorem found_setAll_variable {name value : String} (he : e ∈ variableSettings)
    (hknown : "a_system_".toList <+: (lower name).toList →
      ∃ e ∈ variableSettings, e.variableName = name)
    (hold : Found? (t.member? e.group e.name) old) :
    Found? ((t.setAll (Layers.ofVariable? name value).toList).member? e.group e.name)
      (((value? [(name, value)] e.variableName).map .string).or old) := by
  rw [ofVariable?_eq, value?_singleton]
  by_cases hstart : "a_system_".toList <+: (lower name).toList
  · obtain ⟨e', he', rfl⟩ := hknown hstart
    by_cases hempty : value = ""
    · rw [if_neg fun h => h.1 hempty, if_neg fun h => h.2 hempty]
      exact hold
    · rw [if_pos ⟨hempty, hstart⟩, Option.toList_some, Tree.setAll, List.foldl_cons, List.foldl_nil,
        member?_set_variable he he']
      by_cases h : e = e'
      · rw [if_pos h, if_pos ⟨congrArg _ h, hempty⟩]
        exact .scalar _ _
      · rw [if_neg h, if_neg fun h' => h (variableSetting_ext he he' (Or.inl h'.1))]
        exact hold
  · have hne : e.variableName ≠ name := by
      rintro rfl
      exact hstart (variableSetting_facts he).1
    rw [if_neg fun h => hstart h.2, if_neg fun h => hne h.1]
    exact hold

/-- The variables have a say in the settings that they stand for. -/
theorem found_setAll_variables (hnodup : (environment.map Prod.fst).Nodup)
    (hknown : ∀ v ∈ environment, "a_system_".toList <+: (lower v.1).toList →
      ∃ e ∈ variableSettings, e.variableName = v.1)
    (he : e ∈ variableSettings) (hold : Found? (t.member? e.group e.name) old) :
    Found? ((t.setAll (Layers.ofVariables environment)).member? e.group e.name)
      (((value? environment e.variableName).map .string).or old) := by
  induction environment generalizing t old with
  | nil => exact hold
  | cons v environment ih =>
    obtain ⟨name, value⟩ := v
    obtain ⟨hfirst, hrest⟩ := List.forall_mem_cons.1 hknown
    rw [List.map_cons, List.nodup_cons] at hnodup
    rw [ofVariables_cons, Tree.setAll_append, value?_cons hnodup.1, Option.map_or, Option.or_assoc]
    exact ih hnodup.2 hrest (found_setAll_variable he hfirst hold)

end Variables

section Direct

variable {t : Tree} {s : Surroundings} {group name : String} {old : Option Scalar}

theorem ofDirect_eq (variableName setting : String) :
    (Layers.ofDirect s (variableName, setting)).1 =
      ((value? s.environment variableName).map fun v => (setting, Tree.string v)).toList := by
  unfold Layers.ofDirect value? Surroundings.get?
  dsimp only
  cases s.environment.lookup variableName with
  | none => rfl
  | some v => by_cases h : v = "" <;> simp [Option.filter, h]

/-- The entries of the two variables of their own. -/
theorem direct_eq : (Layers.direct.flatMap fun d => (Layers.ofDirect s d).1) =
    ((value? s.environment "SERVICE_KEY").map fun v => ("service.key", Tree.string v)).toList ++
      ((value? s.environment "LOG_LEVEL").map fun v => ("log.level", Tree.string v)).toList := by
  simp only [Layers.direct, List.flatMap_cons, List.flatMap_nil, ofDirect_eq, List.append_nil]

theorem found_setAll_string {setting settingGroup member : String} (value : Option String)
    (hpath : Path.ofName setting = ⟨settingGroup, [.name member]⟩)
    (hlower : lower settingGroup = settingGroup ∧ lower member = member)
    (hold : Found? (t.member? group name) old) :
    Found? ((t.setAll (value.map fun v => (setting, Tree.string v)).toList).member? group name)
      (if settingGroup = group ∧ member = name then (value.map .string).or old else old) := by
  cases value with
  | none =>
    rw [Option.map_none, Option.map_none, Option.none_or, ite_self]
    exact hold
  | some v =>
    rw [Option.map_some, Option.toList_some, Tree.setAll, List.foldl_cons, List.foldl_nil]
    dsimp only
    rw [hpath, Tree.string, member?_set rfl]
    dsimp only
    rw [hlower.1, hlower.2]
    split
    · exact .scalar _ _
    · exact hold

theorem path_key : Path.ofName "service.key" = ⟨"service", [.name "key"]⟩ := by cbv

theorem path_level : Path.ofName "log.level" = ⟨"log", [.name "level"]⟩ := by cbv

/-- The two variables have a say in their settings only. -/
theorem found_setAll_direct (hold : Found? (t.member? group name) old) :
    Found? ((t.setAll (Layers.direct.flatMap fun d => (Layers.ofDirect s d).1)).member? group name)
      (if "log" = group ∧ "level" = name then
        ((value? s.environment "LOG_LEVEL").map .string).or old
      else if "service" = group ∧ "key" = name then
        ((value? s.environment "SERVICE_KEY").map .string).or old
      else old) := by
  have hkey := found_setAll_string (value? s.environment "SERVICE_KEY") path_key
    (by cbv) hold
  have hlevel := found_setAll_string (value? s.environment "LOG_LEVEL") path_level
    (by cbv) hkey
  rw [direct_eq, Tree.setAll_append]
  by_cases h : "log" = group ∧ "level" = name
  · obtain ⟨rfl, rfl⟩ := h
    exact hlevel
  · rw [if_neg h] at hlevel ⊢
    exact hlevel

end Direct

section Groups

variable {t : Tree} {group : String}

theorem isGroup_setAll {entries : List (String × Tree)}
    (hentries : ∀ e ∈ entries, ∃ name, (Path.ofName e.1).rest = [.name name])
    (h : t.IsGroup group) : (t.setAll entries).IsGroup group := by
  induction entries generalizing t with
  | nil => exact h
  | cons e entries ih =>
    obtain ⟨⟨name, hrest⟩, hentries⟩ := List.forall_mem_cons.1 hentries
    rw [Tree.setAll, List.foldl_cons, ← Tree.setAll]
    exact ih hentries (isGroup_set hrest h)

theorem isGroup_setAll_variables {environment : Environment}
    (hknown : ∀ v ∈ environment, "a_system_".toList <+: (lower v.1).toList →
      ∃ e ∈ variableSettings, e.variableName = v.1) (h : t.IsGroup group) :
    (t.setAll (Layers.ofVariables environment)).IsGroup group := by
  apply isGroup_setAll _ h
  intro entry hentry
  obtain ⟨⟨name, value⟩, hmem, hsome⟩ := List.mem_filterMap.1 hentry
  dsimp only at hsome
  rw [ofVariable?_eq] at hsome
  split at hsome
  · next hstart =>
    obtain ⟨e, he, rfl⟩ := hknown _ hmem hstart.2
    obtain rfl := Option.some.inj hsome
    exact ⟨e.name, by rw [(variableSetting_facts he).2.1]⟩
  · cases hsome

theorem isGroup_setAll_direct {s : Surroundings} (h : t.IsGroup group) :
    (t.setAll (Layers.direct.flatMap fun d => (Layers.ofDirect s d).1)).IsGroup group := by
  apply isGroup_setAll _ h
  intro entry hentry
  rw [direct_eq, List.mem_append, Option.mem_toList, Option.mem_toList, Option.map_eq_some_iff,
    Option.map_eq_some_iff] at hentry
  obtain ⟨v, -, rfl⟩ | ⟨v, -, rfl⟩ := hentry
  · exact ⟨_, by rw [path_key]⟩
  · exact ⟨_, by rw [path_level]⟩

end Groups

section Defaults

theorem defaults_eq : Layers.defaults = .table none
    [("service", .table none [("client_name", .scalar none (.string "a-system")),
      ("images", .scalar none (.integer 2))]),
      ("log", .table none [("level", .scalar none (.string "info"))])] := by
  cbv

end Defaults

end KeyedImages.Settings
