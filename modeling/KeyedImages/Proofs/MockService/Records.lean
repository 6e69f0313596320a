import KeyedImages.MockService

/-! What the stand-in writes when it is called. -/
namespace KeyedImages.MockService

variable {r : Log.Record} {call : Call}

/-- The record of a name that asks for the key. -/
def authNote (name : String) : Log.Record :=
  ⟨.debug, .mock, "Auth requested by " ++ Text.quote name⟩

/-- The record of an upload that was accepted. -/
def acceptNote (image : Image) (id : ImageId) : Log.Record :=
  ⟨.debug, .mock,
    "Accepted image of " ++ Text.Numeral.ofNat image.size ++ " bytes as id " ++ id.text⟩

/-- The records that are always the same: of a token that is compared, and of a reset. -/
def fixedNotes : List Log.Record :=
  [ServiceKey.accepted, ServiceKey.refused, ⟨.info, .key, "Service key cleared"⟩,
    ⟨.info, .mock, "Mock service reset"⟩]

theorem mem_guarded {α : Type} {s : MockService} {token : String}
    {accept : Except ServiceError α × MockService × List Log.Record}
    (h : r ∈ (s.guarded token accept).2.2) :
    r = ServiceKey.accepted ∨ r = ServiceKey.refused ∨ r ∈ accept.2.2 := by
  unfold guarded ServiceKey.check at h
  by_cases hk : token = s.key.secret
  · rw [if_pos hk] at h
    rcases List.mem_append.1 h with h | h
    · exact .inl (List.mem_singleton.1 h)
    · exact .inr (.inr h)
  · rw [if_neg hk] at h
    exact .inr (.inl (List.mem_singleton.1 h))

/-- In reply to a call the stand-in writes a fixed record, the quoted name, or two numbers. -/
theorem mem_answer {s : MockService} (h : r ∈ (s.answer call).2.2) :
    r ∈ fixedNotes ∨ (∃ name, r = authNote name) ∨ ∃ image id, r = acceptNote image id := by
  cases call with
  | auth name time => exact .inr (.inl ⟨name, List.mem_singleton.1 h⟩)
  | hello | noop => cases h
  | getServerTime key | getImage key id =>
    rcases mem_guarded h with rfl | rfl | h
    · exact .inl (by simp [fixedNotes])
    · exact .inl (by simp [fixedNotes])
    · cases h
  | postImage key image =>
    rcases mem_guarded h with rfl | rfl | h
    · exact .inl (by simp [fixedNotes])
    · exact .inl (by simp [fixedNotes])
    · exact .inr (.inr ⟨image, _, List.mem_singleton.1 h⟩)
  | reset =>
    rcases List.mem_cons.1 h with rfl | h
    · exact .inl (by simp [fixedNotes])
    · exact .inl (by simp [fixedNotes, List.mem_singleton.1 h])

theorem source_ne_session {s : MockService} (h : r ∈ (s.answer call).2.2) :
    r.source ≠ .session := by
  rcases mem_answer h with hfixed | ⟨name, rfl⟩ | ⟨image, id, rfl⟩
  · have all : ∀ r ∈ fixedNotes, r.source ≠ .session := by decide
    exact all r hfixed
  · simp [authNote]
  · simp [acceptNote]

end KeyedImages.MockService
