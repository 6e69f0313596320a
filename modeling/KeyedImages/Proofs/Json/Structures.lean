import KeyedImages.Proofs.Json.Values
import Mathlib.Data.List.Basic
import Mathlib.Data.List.Nodup

/-! Structures: the members of an object in any order, or the items of an array in order. -/
namespace KeyedImages.Json

namespace Document

/-- The values of the members with a name, in the order of the text. -/
def valuesOf (name : String) (members : List (String × Document)) : List Document :=
  (members.filter fun m => m.1 = name).map Prod.snd

/-- A part of a structure: its name and what its value must be. It may be left out of an object, or
out of an array together with all parts behind it, where something else is required then. -/
structure Part where
  name : String
  Value : Document → Prop
  absent : Prop := False
  cut : Prop := False

/-- Just one member has the name of a part, or none has where it may be left out. -/
def Part.Held (P : Part) (members : List (String × Document)) : Prop :=
  valuesOf P.name members = [] ∧ P.absent ∨ ∃ d, valuesOf P.name members = [d] ∧ P.Value d

/-- The items are the values of parts in order. -/
def Part.Listed : List Part → List Document → Prop
  | [], items => items = []
  | P :: parts, [] => P.cut ∧ Listed parts []
  | P :: parts, d :: items => P.Value d ∧ Listed parts items

/-- A structure is represented by an object with its parts among members of other names, or by an
array of its parts in order. -/
def Represents (parts : List Part) : Document → Prop
  | .object members => parts.Forall fun P => P.Held members
  | .array items => Part.Listed parts items
  | _ => False

/-- What a member decodes to, none where it is left out. -/
def Gives {α : Type} (members : List (String × Document)) (name : String)
    (decode : Fragment → Decoded α) : Option α → Prop
  | none => valuesOf name members = []
  | some a => ∃ d, valuesOf name members = [d] ∧ decode d.fragment = .ok a

variable {α : Type} {members : List (String × Document)} {name other : String} {d : Document}
  {decode : Fragment → Decoded α}

theorem valuesOf_cons_self : valuesOf name ((name, d) :: members) = d :: valuesOf name members := by
  simp [valuesOf]

theorem valuesOf_cons_of_ne (h : other ≠ name) :
    valuesOf name ((other, d) :: members) = valuesOf name members := by
  simp [valuesOf, h]

theorem listed_cons {P : Part} {parts : List Part} {items : List Document} :
    Part.Listed (P :: parts) items ↔ items = [] ∧ P.cut ∧ Part.Listed parts [] ∨
      ∃ d rest, items = d :: rest ∧ P.Value d ∧ Part.Listed parts rest := by
  cases items <;> simp [Part.Listed]

theorem Part.Listed.exists_value {parts parts' : List Part} {P Q : Part} {items : List Document}
    (h : Listed parts items) (h' : Listed parts' items) (hmem : (P, Q) ∈ parts.zip parts')
    (hcut : ∀ R ∈ parts, ¬ R.cut) (hcut' : ∀ R ∈ parts', ¬ R.cut) :
    ∃ d, P.Value d ∧ Q.Value d := by
  induction parts generalizing parts' items with
  | nil => cases hmem
  | cons P₀ parts ih =>
    cases parts' with
    | nil => cases hmem
    | cons Q₀ parts' =>
      rw [List.forall_mem_cons] at hcut hcut'
      cases items with
      | nil => exact absurd h.1 hcut.1
      | cons d items =>
        rcases List.mem_cons.1 hmem with hfirst | hrest
        · obtain ⟨rfl, rfl⟩ := Prod.mk.inj hfirst
          exact ⟨d, h.1, h'.1⟩
        · exact ih h.2 h'.2 hrest hcut.2 hcut'.2

/-- A part that cannot be left out has one value, whatever structure the document is taken for. -/
theorem Represents.exists_value {parts parts' : List Part} {P Q : Part} (h : Represents parts d)
    (h' : Represents parts' d) (hmem : (P, Q) ∈ parts.zip parts') (hname : P.name = Q.name)
    (habsent : ¬ P.absent) (hcut : ∀ R ∈ parts, ¬ R.cut) (hcut' : ∀ R ∈ parts', ¬ R.cut) :
    ∃ d, P.Value d ∧ Q.Value d := by
  cases d with
  | object members =>
    have hP := List.forall_iff_forall_mem.1 h P (List.of_mem_zip hmem).1
    have hQ := List.forall_iff_forall_mem.1 h' Q (List.of_mem_zip hmem).2
    unfold Part.Held at hP hQ
    rw [← hname] at hQ
    obtain ⟨d, hvalues, hd⟩ := hP.resolve_left fun h => habsent h.2
    rw [hvalues] at hQ
    rcases hQ with ⟨hnone, -⟩ | ⟨d', hsame, hd'⟩
    · cases hnone
    · cases hsame
      exact ⟨d, hd, hd'⟩
  | array items => exact Part.Listed.exists_value h h' hmem hcut hcut'
  | _ => exact h.elim

theorem held_required {a : α} {cut : Prop} :
    Part.Held ⟨name, fun d => decode d.fragment = .ok a, False, cut⟩ members ↔
      Gives members name decode (some a) := by
  simp [Part.Held, Gives]

/-- A part with a default. -/
theorem held_default {default a : α} {cut : Prop} :
    Part.Held ⟨name, fun d => decode d.fragment = .ok a, a = default, cut⟩ members ↔
      ∃ o, Gives members name decode o ∧ o.getD default = a := by
  constructor
  · rintro (⟨h, rfl⟩ | h)
    · exact ⟨none, h, rfl⟩
    · exact ⟨some a, h, rfl⟩
  · rintro ⟨- | a, h, rfl⟩
    · exact .inl ⟨h, rfl⟩
    · exact .inr h

mutual

theorem isWhole_fragment (d : Document) : d.fragment.isWhole = true := by
  cases d with
  | null | bool | number | string => rfl
  | array items => simp [fragment, Fragment.isWhole, areWhole_itemFragments items]
  | object members => simp [fragment, Fragment.isWhole, membersAreWhole_memberFragments members]

theorem areWhole_itemFragments (ds : List Document) :
    Fragment.areWhole (itemFragments ds) = true := by
  match ds with
  | [] => rfl
  | d :: ds =>
    simp [itemFragments, Fragment.areWhole, isWhole_fragment d, areWhole_itemFragments ds]

theorem membersAreWhole_memberFragments (ms : List (String × Document)) :
    Fragment.membersAreWhole (memberFragments ms) = true := by
  match ms with
  | [] => rfl
  | (k, d) :: ms =>
    simp [memberFragments, Fragment.membersAreWhole, isWhole_fragment d,
      membersAreWhole_memberFragments ms]

end

/-- Whatever an unknown member holds, it is read over. -/
theorem ignore_fragment (d : Document) : d.fragment.ignore = .ok () := by
  rw [Fragment.ignore, isWhole_fragment, if_pos rfl]
  rfl

end Document

open Document (Gives Part Represents valuesOf memberFragments itemFragments)

/-- A place that is filled from the member of its name. -/
structure Slot (σ : Type) where
  Value : Type
  name : String
  decode : Fragment → Decoded Value
  get : σ → Option Value
  set : Value → σ → σ
  get_set : ∀ a s, get (set a s) = some a

/-- Fills slots. Each may be filled once, and members of other names are read over. -/
def collectSlots {σ : Type} : List (Slot σ) → Collect σ
  | [], s, _, f => (fun _ => s) <$> f.ignore
  | S :: slots, s, name, f =>
    if name = S.name then
      if (S.get s).isSome then throw (.duplicateField name) else (S.set · s) <$> S.decode f
    else collectSlots slots s name f

/-- Slots that do not get in each other's way, and that make up all there is. -/
structure Independent {σ : Type} (slots : List (Slot σ)) : Prop where
  distinct : (slots.map Slot.name).Nodup
  get_set_of_ne : ∀ S ∈ slots, ∀ T ∈ slots, S.name ≠ T.name → ∀ a s,
    T.get (S.set a s) = T.get s
  ext : ∀ s t, (∀ S ∈ slots, S.get s = S.get t) → s = t

variable {α β σ : Type} {slots : List (Slot σ)} {S : Slot σ} {s s' t : σ}
  {members : List (String × Document)} {name : String} {d : Document}

namespace Slot

/-- What becomes of a slot in going through members. -/
def Collected (S : Slot σ) (members : List (String × Document)) (s t : σ) : Prop :=
  match S.get s with
  | none => Gives members S.name S.decode (S.get t)
  | some a => valuesOf S.name members = [] ∧ S.get t = some a

theorem collected_nil : S.Collected [] s t ↔ S.get s = S.get t := by
  unfold Collected
  cases S.get s with
  | none => cases S.get t <;> simp [Gives, valuesOf]
  | some a => simp [valuesOf, eq_comm]

theorem collected_cons_of_ne (hne : name ≠ S.name) (hs : S.get s = S.get s') :
    S.Collected ((name, d) :: members) s t ↔ S.Collected members s' t := by
  unfold Collected
  rw [hs]
  cases S.get s' with
  | none => cases S.get t <;> simp only [Gives, Document.valuesOf_cons_of_ne hne]
  | some a => simp only [Document.valuesOf_cons_of_ne hne]

theorem not_collected_cons_self (hs : (S.get s).isSome) :
    ¬ S.Collected ((S.name, d) :: members) s t := by
  obtain ⟨a, ha⟩ := Option.isSome_iff_exists.1 hs
  unfold Collected
  rw [ha, Document.valuesOf_cons_self]
  simp

theorem collected_cons_self (hs : S.get s = none) :
    S.Collected ((S.name, d) :: members) s t ↔
      ∃ a, S.decode d.fragment = .ok a ∧ valuesOf S.name members = [] ∧ S.get t = some a := by
  unfold Collected
  rw [hs]
  cases S.get t with
  | none => simp [Gives, Document.valuesOf_cons_self]
  | some a =>
    simp only [Gives, Document.valuesOf_cons_self, List.cons.injEq, Option.some.injEq]
    constructor
    · rintro ⟨d', ⟨rfl, hnil⟩, hd⟩
      exact ⟨a, hd, hnil, rfl⟩
    · rintro ⟨a', hd, hnil, rfl⟩
      exact ⟨d, ⟨rfl, hnil⟩, hd⟩

end Slot

theorem collectSlots_name (hname : (slots.map Slot.name).Nodup) (hS : S ∈ slots)
    (f : Fragment) : collectSlots slots s S.name f =
      if (S.get s).isSome then throw (.duplicateField S.name) else (S.set · s) <$> S.decode f := by
  induction slots with
  | nil => simp at hS
  | cons T slots ih =>
    rw [List.map_cons, List.nodup_cons] at hname
    rw [collectSlots]
    rcases List.mem_cons.1 hS with rfl | hS
    · rw [if_pos rfl]
    · have hne : S.name ≠ T.name := fun heq => hname.1 (heq ▸ List.mem_map_of_mem hS)
      rw [if_neg hne]
      exact ih hname.2 hS

theorem collectSlots_unknown (h : ∀ S ∈ slots, S.name ≠ name) (f : Fragment) :
    collectSlots slots s name f = (fun _ => s) <$> f.ignore := by
  induction slots with
  | nil => rfl
  | cons S slots ih =>
    rw [collectSlots, if_neg (h S List.mem_cons_self).symm]
    exact ih fun T hT => h T (List.mem_cons_of_mem S hT)

namespace Independent

theorem eq_of_name {T : Slot σ} (h : Independent slots) (hS : S ∈ slots) (hT : T ∈ slots)
    (hname : S.name = T.name) : S = T :=
  List.inj_on_of_nodup_map h.distinct hS hT hname

/-- Behind the member of a slot, the other slots are still to be collected. -/
theorem collected_cons (h : Independent slots) (hS : S ∈ slots) (hs : S.get s = none) :
    (∀ T ∈ slots, T.Collected ((S.name, d) :: members) s t) ↔
      ∃ a, S.decode d.fragment = .ok a ∧ ∀ T ∈ slots, T.Collected members (S.set a s) t := by
  have hself : ∀ a, S.Collected members (S.set a s) t ↔
      valuesOf S.name members = [] ∧ S.get t = some a := by
    intro a
    unfold Slot.Collected
    rw [S.get_set]
  have hother : ∀ a, ∀ T ∈ slots, S.name ≠ T.name →
      (T.Collected ((S.name, d) :: members) s t ↔ T.Collected members (S.set a s) t) :=
    fun a T hT hne => Slot.collected_cons_of_ne hne (h.get_set_of_ne S hS T hT hne a s).symm
  constructor
  · intro hall
    obtain ⟨a, hd, hrest⟩ := (Slot.collected_cons_self hs).1 (hall S hS)
    refine ⟨a, hd, fun T hT => ?_⟩
    by_cases hname : S.name = T.name
    · obtain rfl := h.eq_of_name hS hT hname
      exact (hself a).2 hrest
    · exact (hother a T hT hname).1 (hall T hT)
  · rintro ⟨a, hd, hall⟩ T hT
    by_cases hname : S.name = T.name
    · obtain rfl := h.eq_of_name hS hT hname
      exact (Slot.collected_cons_self hs).2 ⟨a, hd, (hself a).1 (hall S hS)⟩
    · exact (hother a T hT hname).2 (hall T hT)

/-- Members are collected just if each slot by itself is filled from them. -/
theorem collectMembers_eq_ok (h : Independent slots) :
    collectMembers (collectSlots slots) s (memberFragments members) .closed = .ok t ↔
      ∀ S ∈ slots, S.Collected members s t := by
  induction members generalizing s with
  | nil =>
    simp only [memberFragments, collectMembers, Slot.collected_nil, pure_eq_ok]
    constructor
    · rintro rfl S -
      rfl
    · exact h.ext s t
  | cons m members ih =>
    obtain ⟨name, d⟩ := m
    rw [memberFragments, collectMembers, bind_eq_ok]
    by_cases hname : ∃ S ∈ slots, S.name = name
    · obtain ⟨S, hS, rfl⟩ := hname
      rw [collectSlots_name h.distinct hS]
      cases hs : S.get s with
      | none =>
        simp only [Option.isSome_none, Bool.false_eq_true, if_false, map_eq_ok,
          h.collected_cons hS hs, ← ih]
        constructor
        · rintro ⟨_, ⟨a, hd, rfl⟩, hrest⟩
          exact ⟨a, hd, hrest⟩
        · rintro ⟨a, hd, hrest⟩
          exact ⟨_, ⟨a, hd, rfl⟩, hrest⟩
      | some a =>
        simp only [Option.isSome_some, if_true, throw_ne_ok, false_and, exists_false, false_iff]
        intro hall
        exact Slot.not_collected_cons_self (by rw [hs]; rfl) (hall S hS)
    · have hne : ∀ S ∈ slots, S.name ≠ name := fun S hS heq => hname ⟨S, hS, heq⟩
      have hsame : ∀ S ∈ slots,
          (S.Collected ((name, d) :: members) s t ↔ S.Collected members s t) :=
        fun S hS => Slot.collected_cons_of_ne (hne S hS).symm rfl
      rw [collectSlots_unknown hne, Document.ignore_fragment]
      constructor
      · rintro ⟨_, hs, hrest⟩
        cases hs
        exact fun S hS => (hsame S hS).2 (ih.1 hrest S hS)
      · intro hall
        exact ⟨s, rfl, ih.2 fun S hS => (hsame S hS).1 (hall S hS)⟩

end Independent

section Object

variable {expected : String} {inOrder : InOrder α} {collect : Collect σ} {start : σ}
  {finish : σ → Decoded α} {a : α}

/-- A structure in an object is finished from what its members give, each slot by itself. -/
theorem structureOf_object (hcollect : collect = collectSlots slots) (h : Independent slots)
    (hstart : slots.Forall fun S => S.get start = none) :
    structureOf expected inOrder collect start finish (Document.object members).fragment = .ok a ↔
      ∃ s, (slots.Forall fun S => Gives members S.name S.decode (S.get s)) ∧
        finish s = .ok a := by
  have hgives : ∀ s, (∀ S ∈ slots, S.Collected members start s) ↔
      slots.Forall fun S => Gives members S.name S.decode (S.get s) := by
    intro s
    rw [List.forall_iff_forall_mem]
    refine forall₂_congr fun S hS => ?_
    unfold Slot.Collected
    rw [List.forall_iff_forall_mem.1 hstart S hS]
  rw [Document.fragment, structureOf, bind_eq_ok, hcollect]
  simp only [h.collectMembers_eq_ok, hgives]

theorem structureOf_array {items : List Document} :
    structureOf expected inOrder collect start finish (Document.array items).fragment =
      inOrder.all (itemFragments items) true := rfl

theorem not_structureOf (hobject : ∀ ms, d ≠ .object ms) (harray : ∀ items, d ≠ .array items) :
    ¬ structureOf expected inOrder collect start finish d.fragment = .ok a := by
  cases d with
  | array items => exact absurd rfl (harray items)
  | object members => exact absurd rfl (hobject members)
  | _ => exact Fragment.unexpected_ne_ok

theorem once_bind {old : Option α} {decode : Fragment → Decoded α} {f : Fragment}
    {set : Option α → σ} : (do let new ← once name old decode f; pure (set new)) =
      if old.isSome then throw (.duplicateField name)
      else (fun a => set (some a)) <$> decode f := by
  unfold once
  split
  · rfl
  · cases decode f <;> rfl

theorem needed_eq_ok {o : Option α} : needed name o = .ok a ↔ o = some a := by
  cases o with
  | none => simp [needed, throw_ne_ok]
  | some b => simp [needed, pure_eq_ok]

end Object

namespace InOrder

variable {items : List Document} {more : α → InOrder β} {decode : Fragment → Decoded α} {b c : β}

theorem all_bind (x : InOrder α) (fs : List Fragment) (closed : Bool) :
    (x >>= more).all fs closed =
      x ⟨fs, closed⟩ >>= fun r => (more r.1).all r.2.rest r.2.closed := by
  change (x ⟨fs, closed⟩ >>= fun r => more r.1 r.2) >>= _ = _
  rw [bind_assoc]
  rfl

/-- With nothing more to decode, no items may be left. -/
theorem all_pure : (pure b : InOrder β).all (itemFragments items) true = .ok c ↔
    items = [] ∧ b = c := by
  cases items with
  | nil =>
    have hdone : (pure b : InOrder β).all (itemFragments []) true = .ok b := rfl
    simp [hdone]
  | cons d items =>
    have hleft : (pure b : InOrder β).all (itemFragments (d :: items)) true =
      .error .malformed := rfl
    simp [hleft]

/-- A field that must be there takes the next item. -/
theorem all_field {position : Nat} {expected : String} :
    (field position expected decode >>= more).all (itemFragments items) true = .ok b ↔
      ∃ d rest a, items = d :: rest ∧ decode d.fragment = .ok a ∧
        (more a).all (itemFragments rest) true = .ok b := by
  rw [all_bind]
  cases items with
  | nil =>
    have hnone : field position expected decode ⟨itemFragments [], true⟩ =
      .error (.invalidLength position expected) := rfl
    rw [hnone]
    simp [bind, Except.bind]
  | cons d items =>
    have hitem : field position expected decode ⟨itemFragments (d :: items), true⟩ =
      decode d.fragment >>= fun a => pure (a, ⟨itemFragments items, true⟩) := rfl
    rw [hitem, bind_assoc, bind_eq_ok]
    simp

theorem all_fieldOr {default : α} :
    (fieldOr default decode >>= more).all (itemFragments items) true = .ok b ↔
      items = [] ∧ (more default).all (itemFragments []) true = .ok b ∨
        ∃ d rest a, items = d :: rest ∧ decode d.fragment = .ok a ∧
          (more a).all (itemFragments rest) true = .ok b := by
  rw [all_bind]
  cases items with
  | nil =>
    have hnone : fieldOr default decode ⟨itemFragments [], true⟩ =
      .ok (default, ⟨itemFragments [], true⟩) := rfl
    rw [hnone]
    simp [bind, Except.bind]
  | cons d items =>
    have hitem : fieldOr default decode ⟨itemFragments (d :: items), true⟩ =
      decode d.fragment >>= fun a => pure (a, ⟨itemFragments items, true⟩) := rfl
    rw [hitem, bind_assoc, bind_eq_ok]
    simp

end InOrder

section Pair

variable {expected missing : String} {collect : Collect σ} {start : σ} {S T : Slot σ} {a : α}
  {make : S.Value → T.Value → α}

/-- A structure of two slots that must be there. -/
theorem structureOf_pair (hcollect : collect = collectSlots [S, T]) (h : Independent [S, T])
    (hstart : S.get start = none ∧ T.get start = none) :
    structureOf expected
        (do
          let b ← InOrder.field 0 missing S.decode
          let c ← InOrder.field 1 missing T.decode
          pure (make b c))
        collect start
        (fun s => do
          let b ← needed S.name (S.get s)
          let c ← needed T.name (T.get s)
          pure (make b c)) d.fragment = .ok a ↔
      ∃ b c, make b c = a ∧ Represents
        [{ name := S.name, Value := fun d => S.decode d.fragment = .ok b },
          { name := T.name, Value := fun d => T.decode d.fragment = .ok c }] d := by
  cases d with
  | object members =>
    rw [structureOf_object hcollect h hstart]
    simp only [Represents, List.Forall, bind_eq_ok, needed_eq_ok, pure_eq_ok,
      Document.held_required]
    constructor
    · rintro ⟨s, ⟨hS, hT⟩, b, hb, c, hc, rfl⟩
      exact ⟨b, c, rfl, hb ▸ hS, hc ▸ hT⟩
    · rintro ⟨b, c, rfl, hS, hT⟩
      have hne : T.name ≠ S.name := by
        intro heq
        have hdistinct := h.distinct
        rw [List.map_cons, List.map_cons, heq, List.nodup_cons] at hdistinct
        exact hdistinct.1 List.mem_cons_self
      have hb : S.get (T.set c (S.set b start)) = some b := by
        rw [h.get_set_of_ne T (by simp) S (by simp) hne, S.get_set]
      have hc := T.get_set c (S.set b start)
      rw [← hb] at hS
      rw [← hc] at hT
      exact ⟨T.set c (S.set b start), ⟨hS, hT⟩, b, hb, c, hc, rfl⟩
  | array items =>
    rw [structureOf_array]
    simp only [InOrder.all_field, InOrder.all_pure, Represents, Document.listed_cons, Part.Listed,
      false_and, and_false, false_or]
    constructor
    · rintro ⟨_, _, b, rfl, hS, _, _, c, rfl, hT, rfl, rfl⟩
      exact ⟨b, c, rfl, _, _, rfl, hS, _, _, rfl, hT, rfl⟩
    · rintro ⟨b, c, rfl, _, _, rfl, hS, _, _, rfl, hT, rfl⟩
      exact ⟨_, _, b, rfl, hS, _, _, c, rfl, hT, rfl, rfl⟩
  | _ =>
    refine iff_of_false (not_structureOf (by simp) (by simp)) ?_
    rintro ⟨_, _, _, h⟩
    exact h

end Pair

end KeyedImages.Json
