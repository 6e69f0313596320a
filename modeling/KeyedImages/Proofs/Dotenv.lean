import KeyedImages.Dotenv
import Mathlib

/-! Variables that are empty, and the same ones unset: a file of assignments makes no difference
between them, as long as it gives them no other value. -/
namespace KeyedImages

/-- The variables but those with some names. -/
def Environment.without (names : List String) (environment : Environment) : Environment :=
  environment.filter fun v => v.1 ∉ names

/-- Variables with some names are empty wherever they are set. -/
def Environment.Blank (names : List String) (environment : Environment) : Prop :=
  ∀ v ∈ environment, v.1 ∈ names → v.2 = ""

instance (names : List String) (environment : Environment) :
    Decidable (Environment.Blank names environment) :=
  inferInstanceAs (Decidable (∀ v ∈ environment, v.1 ∈ names → v.2 = ""))

open Environment (without Blank)

variable {names : List String} {environment full rest : Environment} {name value : String}

theorem lookup_without (names : List String) (name : String) (environment : Environment) :
    (without names environment).lookup name =
      if name ∈ names then none else environment.lookup name := by
  unfold without
  induction environment with
  | nil => simp
  | cons v environment ih =>
    obtain ⟨first, value⟩ := v
    by_cases heq : name = first
    · subst heq
      by_cases h : name ∈ names
      · simpa [h] using ih
      · simp [h]
    · have hbeq : (name == first) = false := beq_eq_false_iff_ne.2 heq
      by_cases h : first ∈ names
      · simpa [h, List.lookup_cons, hbeq] using ih
      · simpa [h, List.lookup_cons, hbeq] using ih

theorem Environment.Blank.lookup (h : Blank names environment) (hname : name ∈ names) :
    (environment.lookup name).getD "" = "" := by
  cases hvalue : environment.lookup name with
  | none => rfl
  | some value =>
    obtain ⟨before, after, rfl, -⟩ := List.lookup_eq_some_iff.1 hvalue
    exact h (name, value) (by simp) hname

/-- Variables, and others that are the same but that some of the empty ones are not set. -/
structure SameButEmpty (names : List String) (full rest : Environment) : Prop where
  blank : Blank names full
  blank_rest : Blank names rest
  without_eq : without names full = without names rest
  unset : ∀ name ∈ names, full.lookup name = none → rest.lookup name = none

namespace SameButEmpty

theorem of_blank (h : Blank names environment) :
    SameButEmpty names environment (without names environment) where
  blank := h
  blank_rest := by
    intro v hv hname
    exact absurd hname (of_decide_eq_true (List.mem_filter.1 hv).2)
  without_eq := by
    unfold without
    rw [List.filter_filter]
    simp
  unset := by
    intro name hname _
    rw [lookup_without, if_pos hname]

theorem lookup_of_not_mem (h : SameButEmpty names full rest) (hname : name ∉ names) :
    full.lookup name = rest.lookup name := by
  have hlookup := congrArg (List.lookup name) h.without_eq
  rwa [lookup_without, lookup_without, if_neg hname, if_neg hname] at hlookup

/-- No difference is made where an unset variable counts as an empty one. -/
theorem getD_lookup (h : SameButEmpty names full rest) (name : String) :
    (full.lookup name).getD "" = (rest.lookup name).getD "" := by
  by_cases hname : name ∈ names
  · rw [h.blank.lookup hname, h.blank_rest.lookup hname]
  · rw [h.lookup_of_not_mem hname]

end SameButEmpty

namespace Dotenv

variable {line : List Char} {lines : List (Option (List Char))}

/-- Sets a variable that is not set. -/
def setNew (environment : Environment) (name value : String) : Environment :=
  if (environment.lookup name).isSome then environment else environment ++ [(name, value)]

/-- A line does the same to variables that have the same values. -/
theorem assign?_cases (h : ∀ name, (full.lookup name).getD "" = (rest.lookup name).getD "")
    (line : List Char) :
    (assign? full line = none ∧ assign? rest line = none) ∨
      (assign? full line = some full ∧ assign? rest line = some rest) ∨
      ∃ name value, assign? full line = some (setNew full name value) ∧
        assign? rest line = some (setNew rest name value) := by
  have hnamed : (fun n : List Char => ((full.lookup (String.ofList n)).getD "").toList) =
      fun n => ((rest.lookup (String.ofList n)).getD "").toList := by
    funext n
    rw [h]
  simp only [assign?, hnamed]
  split
  · exact .inr (.inl ⟨rfl, rfl⟩)
  · cases target? (Text.trimStart (Text.trimEnd line)) with
    | none => exact .inl ⟨rfl, rfl⟩
    | some target =>
      obtain ⟨name, behind⟩ := target
      simp only [Option.bind_eq_bind, Option.bind_some]
      split
      · exact .inr (.inr ⟨name, _, (apply_ite some _ _ _).symm, (apply_ite some _ _ _).symm⟩)
      · cases value? _ false .text (Text.trimStart behind) with
        | none => exact .inl ⟨rfl, rfl⟩
        | some value =>
          exact .inr (.inr ⟨name, _, (apply_ite some _ _ _).symm, (apply_ite some _ _ _).symm⟩)

/-- A file takes no variable away. -/
theorem mem_assignAll {v : String × String} (h : v ∈ environment) :
    v ∈ assignAll environment lines := by
  induction lines generalizing environment with
  | nil => exact h
  | cons line lines ih =>
    cases line with
    | none => exact h
    | some line =>
      rw [assignAll]
      rcases assign?_cases (fun _ => rfl) line with
        ⟨hline, -⟩ | ⟨hline, -⟩ | ⟨name, value, hline, -⟩ <;> rw [hline]
      · exact h
      · exact ih h
      · apply ih
        unfold setNew
        split
        · exact h
        · exact List.mem_append_left _ h

end Dotenv

namespace SameButEmpty

open Dotenv

theorem blank_append (h : Blank names environment) (hvalue : name ∈ names → value = "") :
    Blank names (environment ++ [(name, value)]) := by
  intro v hv hname
  rcases List.mem_append.1 hv with hold | hnew
  · exact h v hold hname
  · rw [List.mem_singleton.1 hnew] at hname ⊢
    exact hvalue hname

theorem append (h : SameButEmpty names full rest) (hvalue : name ∈ names → value = "") :
    SameButEmpty names (full ++ [(name, value)]) (rest ++ [(name, value)]) where
  blank := blank_append h.blank hvalue
  blank_rest := blank_append h.blank_rest hvalue
  without_eq := by
    have hsame := h.without_eq
    unfold without at *
    rw [List.filter_append, List.filter_append, hsame]
  unset := by
    intro other hother hnone
    rw [List.lookup_append, Option.or_eq_none_iff] at hnone ⊢
    exact ⟨h.unset other hother hnone.1, hnone.2⟩

theorem append_rest (h : SameButEmpty names full rest) (hname : name ∈ names)
    (hset : full.lookup name ≠ none) : SameButEmpty names full (rest ++ [(name, "")]) where
  blank := h.blank
  blank_rest := blank_append h.blank_rest fun _ => rfl
  without_eq := by
    have hsame := h.without_eq
    unfold without at *
    rw [List.filter_append, hsame]
    simp [hname]
  unset := by
    intro other hother hnone
    have hne : other ≠ name := by
      rintro rfl
      exact hset hnone
    have hbeq : (other == name) = false := beq_eq_false_iff_ne.2 hne
    rw [List.lookup_append, h.unset other hother hnone, List.lookup_cons, hbeq]
    rfl

/-- A variable that gets a value gets it in both, and one that is set to nothing matters in
neither. -/
theorem setNew (h : SameButEmpty names full rest)
    (hblank : Blank names (Dotenv.setNew rest name value)) :
    SameButEmpty names (Dotenv.setNew full name value) (Dotenv.setNew rest name value) := by
  have hvalue : rest.lookup name = none → name ∈ names → value = "" := by
    intro hnone hname
    rw [Dotenv.setNew, hnone] at hblank
    exact hblank (name, value) (by simp) hname
  unfold Dotenv.setNew
  cases hfull : full.lookup name with
  | none =>
    have hrest : rest.lookup name = none := by
      by_cases hname : name ∈ names
      · exact h.unset name hname hfull
      · rw [← h.lookup_of_not_mem hname, hfull]
    rw [hrest]
    exact h.append (hvalue hrest)
  | some old =>
    cases hrest : rest.lookup name with
    | some old' => exact h
    | none =>
      -- The file sets it here and leaves it alone there, where it is empty: so it sets it to
      -- nothing.
      have hname : name ∈ names := by
        by_contra hname
        rw [h.lookup_of_not_mem hname, hrest] at hfull
        cases hfull
      obtain rfl := hvalue hrest hname
      exact h.append_rest hname (by simp [hfull])

theorem assignAll {lines : List (Option (List Char))} (h : SameButEmpty names full rest)
    (hblank : Blank names (Dotenv.assignAll rest lines)) :
    SameButEmpty names (Dotenv.assignAll full lines) (Dotenv.assignAll rest lines) := by
  induction lines generalizing full rest with
  | nil => exact h
  | cons line lines ih =>
    cases line with
    | none => exact h
    | some line =>
      rw [Dotenv.assignAll, Dotenv.assignAll]
      rw [Dotenv.assignAll] at hblank
      rcases assign?_cases h.getD_lookup line with
        ⟨hfull, hrest⟩ | ⟨hfull, hrest⟩ | ⟨name, value, hfull, hrest⟩ <;>
        rw [hrest] at hblank ⊢ <;> rw [hfull]
      · exact h
      · exact ih h hblank
      · have hset : Blank names (Dotenv.setNew rest name value) :=
          fun v hv => hblank v (mem_assignAll hv)
        exact ih (h.setNew hset) hblank

/-- A file that is loaded keeps the difference, if it gives none of the variables a value. -/
theorem load {text : String} (h : SameButEmpty names full rest)
    (hblank : Blank names (Dotenv.load text rest)) :
    SameButEmpty names (Dotenv.load text full) (Dotenv.load text rest) :=
  h.assignAll hblank

end SameButEmpty

end KeyedImages
