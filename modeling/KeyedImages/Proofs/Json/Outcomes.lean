import KeyedImages.Proofs.Json.RoundTrip

/-! Outcomes whose members stand in any order and among others, by themselves and in the steps of a
transcript. -/
namespace KeyedImages.Session

open Json Json.Document

variable {members : List (String × Document)} {opened : Nat} {o : Outcome} {t : Transcript}

namespace Outcome

/-- An object with an outcome among its members: one is the status, one the field that goes with it,
and all but the status are plain. -/
structure Among (o : Outcome) (members : List (String × Document)) : Prop where
  status : valuesOf "status" members = [.string o.status.name]
  field : ∃ d, valuesOf o.status.field members = [d] ∧ o.KeptAs d
  plain : ∀ m ∈ members, m.1 ≠ "status" → m.2.Plain

/-- An object that has no status or several, or not just one field that goes with its status. -/
def Deficient (members : List (String × Document)) : Prop :=
  (valuesOf "status" members).length ≠ 1 ∨
    ∃ status : Status, .string status.name ∈ valuesOf "status" members ∧
      (valuesOf status.field members).length ≠ 1

theorem plain_fieldDocument (o : Outcome) : o.fieldDocument.Plain :=
  ⟨o.fits_fieldDocument, Nat.lt_of_le_of_lt o.nesting_fieldDocument (by decide)⟩

/-- The members of an outcome, in either order, with plain members of other names anywhere between
them. -/
theorem among_of_perm
    (hown : (members.filter fun m => m.1 ∈ ["status", "detail", "error"]).Perm
      [("status", .string o.status.name), (o.status.field, o.fieldDocument)])
    (hother : ∀ m ∈ members, m.1 ∉ ["status", "detail", "error"] → m.2.Plain) :
    o.Among members := by
  have hvalues (name : String) (hname : name ∈ ["status", "detail", "error"]) :
      (valuesOf name members).Perm (valuesOf name
        [("status", .string o.status.name), (o.status.field, o.fieldDocument)]) := by
    have hfilter : valuesOf name (members.filter fun m => m.1 ∈ ["status", "detail", "error"]) =
        valuesOf name members := valuesOf_filter fun _ => decide_eq_true hname
    rw [← hfilter]
    exact (hown.filter _).map _
  refine ⟨?_, ⟨o.fieldDocument, ?_, o.keptAs_fieldDocument⟩, fun m hm hne => ?_⟩
  · simpa [valuesOf, o.status.field_ne] using hvalues "status" (by simp)
  · have hfield : o.status.field ∈ ["status", "detail", "error"] := by
      cases o <;> simp [Outcome.status, Status.field]
    simpa [valuesOf, o.status.field_ne.symm] using hvalues _ hfield
  · by_cases hname : m.1 ∈ ["status", "detail", "error"]
    · have hmem := hown.mem_iff.1 (List.mem_filter.2 ⟨hm, decide_eq_true hname⟩)
      rcases List.mem_cons.1 hmem with rfl | hmem
      · exact absurd rfl hne
      · rw [List.mem_singleton.1 hmem]
        exact o.plain_fieldDocument
    · exact hother m hm hname

theorem Among.decode (h : o.Among members) (hopened : opened + 51 ≤ Fragment.depthLimit) :
    decode opened (object members).fragment = .ok o := by
  refine decode_object.2 ⟨h.status, h.field, fun m hm hne => ?_⟩
  exact (h.plain m hm hne).canKeep (by omega)

theorem Deficient.not_decode (h : Deficient members) :
    ¬ decode opened (object members).fragment = .ok o := by
  intro hdecode
  obtain ⟨hstatus, ⟨d, hfield, -⟩, -⟩ := decode_object.1 hdecode
  rcases h with hlen | ⟨status, hmem, hlen⟩
  · exact hlen (by rw [hstatus]; rfl)
  · rw [hstatus, List.mem_singleton, Document.string.injEq] at hmem
    rw [Status.name_inj hmem, hfield] at hlen
    exact hlen rfl

end Outcome

/-- A transcript with other objects in place of its outcomes. -/
def Transcript.withOutcomes (t : Transcript) (outcomes : List (List (String × Document))) :
    Document :=
  t.documentWith (List.zipWith (fun s members => s.documentWith (.object members)) t.steps outcomes)

theorem Transcript.decode_withOutcomes {outcomes : List (List (String × Document))}
    (h : List.Forall₂ (fun s members => s.outcome.Among members) t.steps outcomes) :
    decode (t.withOutcomes outcomes).fragment = .ok t := by
  refine decode_documentWith.2 ⟨rfl, ?_⟩
  generalize t.steps = steps at h
  induction h with
  | nil => exact .nil
  | cons h _ ih => exact .cons (Step.decode_documentWith.2 ⟨rfl, h.decode (by decide)⟩) ih

theorem Transcript.not_decode_withOutcomes {u : Transcript}
    {outcomes : List (List (String × Document))} (hlen : outcomes.length = t.steps.length)
    (hmem : members ∈ outcomes) (h : Outcome.Deficient members) :
    ¬ decode (t.withOutcomes outcomes).fragment = .ok u := by
  intro hdecode
  obtain ⟨-, hsteps⟩ := decode_documentWith.1 hdecode
  obtain ⟨i, hi, rfl⟩ := List.getElem_of_mem hmem
  have hi' : i < (List.zipWith (fun (s : Step) members => s.documentWith (.object members))
      t.steps outcomes).length := by simpa [← hlen] using hi
  have hstep := hsteps.get hi' (hsteps.length_eq ▸ hi')
  rw [List.get_eq_getElem, List.getElem_zipWith, Step.decode_documentWith] at hstep
  exact h.not_decode hstep.2

/-- An outcome is read from its two members in either order, whatever plain members of other names
stand among them; the text may have any blanks and escapes. It is not read where the status is
missing or repeated, or the field that goes with it. So it is in the steps of a transcript. -/
theorem outcome_in_any_order :
    (∀ (o : Outcome) members text, Writes (object members).tokens text → o.Among members →
      decodeText (Outcome.decode 0) (String.ofList text) = .ok o) ∧
    (∀ members text, Writes (object members).tokens text → Outcome.Deficient members →
      ∃ failure, decodeText (Outcome.decode 0) (String.ofList text) = .error failure) ∧
    (∀ (t : Transcript) outcomes text, Writes (t.withOutcomes outcomes).tokens text →
      List.Forall₂ (fun s members => s.outcome.Among members) t.steps outcomes →
      decodeText Transcript.decode (String.ofList text) = .ok t) ∧
    ∀ (t : Transcript) outcomes members text, Writes (t.withOutcomes outcomes).tokens text →
      outcomes.length = t.steps.length → members ∈ outcomes → Outcome.Deficient members →
      ∃ failure, decodeText Transcript.decode (String.ofList text) = .error failure := by
  refine ⟨fun o members text hw h => ?_, fun members text hw h => ?_,
    fun t outcomes text hw h => ?_, fun t outcomes members text hw hlen hmem h => ?_⟩
  · rw [decodeText_of_writes _ hw]
    exact h.decode (by decide)
  · rw [decodeText_of_writes _ hw]
    exact exists_error fun _ => h.not_decode
  · rw [decodeText_of_writes _ hw]
    exact Transcript.decode_withOutcomes h
  · rw [decodeText_of_writes _ hw]
    exact exists_error fun _ => Transcript.not_decode_withOutcomes hlen hmem h

/-- The field of an error in front of its status, with the least number of 64 bits and another
status deep inside an unknown member; and the same members twice. -/
theorem outcome_in_any_order_shuffled :
    let error := ServiceError.imageNotFound ⟨0⟩
    let members := [("retry", .array [.object [("status", .string "ok")],
      .number (-9223372036854775808)]), ("error", error.document), ("note", .null),
      ("status", .string "failed")]
    let t : Transcript := ⟨[⟨.noop, .ok ""⟩, ⟨.getImage, .failed error⟩], [], none, false⟩
    let first := [("status", .string "ok"), ("detail", .string "")]
    (Outcome.failed error).Among members ∧
      decodeText Transcript.decode (t.withOutcomes [first, members]).text = .ok t ∧
      ∃ failure, decodeText Transcript.decode (t.withOutcomes [first, members ++ members]).text =
        .error failure := by
  intro error members t first
  have hmembers : (Outcome.failed error).Among members :=
    Outcome.among_of_perm (.swap _ _ _) (by simpa [members] using by decide)
  have hfirst : (Outcome.ok "").Among first :=
    Outcome.among_of_perm (.refl _) (by simp [first])
  have htwice : Outcome.Deficient (members ++ members) := .inl (by decide)
  obtain ⟨-, -, hread, hfailed⟩ := outcome_in_any_order
  exact ⟨hmembers, hread t _ _ (writes_compact _) (.cons hfirst (.cons hmembers .nil)),
    hfailed t _ _ _ (writes_compact _) rfl (List.mem_cons_of_mem _ List.mem_cons_self) htwice⟩

end KeyedImages.Session
