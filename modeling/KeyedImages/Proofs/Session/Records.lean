import KeyedImages.Proofs.MockService.Records
import KeyedImages.Proofs.Session.Keyless
import KeyedImages.Proofs.Text.Quoted

/-! The records that a session writes, at any service: one to begin with, one or two for each call
that it does not break off at, and one at the end if it gets there. -/
namespace KeyedImages

namespace Dialogue

variable {σ α : Type} {service : Service σ} {p : Log.Record → Bool}

/-- Records unlike all those of the service are the dialogue's own. -/
theorem filter_log (h : ∀ s call, ∀ r ∈ (service.answer s call).2.2, p r = false)
    (d : Dialogue α) (s : σ) :
    (d.run service s).log.filter p = (d.run service.muted s).log.filter p := by
  induction d generalizing s with
  | done value => rfl
  | note record rest ih =>
    have hrest := ih s
    simp only [run, List.filter_cons, hrest]
  | ask call next ih =>
    have hnone : (service.answer s call).2.2.filter p = [] := by
      rw [List.filter_eq_nil_iff]
      intro r hr
      simp [h s call r hr]
    have hrest := ih (service.answer s call).1 (service.answer s call).2.1
    simpa [run, Service.muted, List.filter_append, hnone] using hrest

end Dialogue

/-- Whether an image was found under the reserved id. -/
def Exchange.foundReserved : Exchange → Bool
  | ⟨.getImage _ id, .ok _⟩ => id.isNone
  | _ => false

namespace Session

variable {σ : Type} {service : Service σ} {s : σ} {request : Request} {now : Timestamp}
  {stage : Stage} {stages before after : List Stage} {past : List Exchange} {x : Exchange}
  {e : ServiceError}

/-- A session warns of an image under the reserved id, unless it was looking up its first upload,
and of the time in reply to the last call. -/
def Stage.warns (stage : Stage) (x : Exchange) : Bool :=
  x.foundReserved && stage != .first || x.toldTime?.isSome && stage == .revoked

def warningText : Method → String
  | .getImage => "GetImage returned an image for the reserved id"
  | _ => "Service key still accepted after Reset"

/-- What is written of an exchange: a warning if there is reason for one, and then its step. -/
def Stage.entry (stage : Stage) (x : Exchange) : List Log.Record :=
  (if stage.warns x then [⟨.warn, .session, warningText x.call.method⟩] else []) ++
    [(stepOf x).note]

/-- The exchanges that a session records: all, or all but the last if it breaks off there. -/
def recorded (value : Except ServiceError Transcript) (exchanges : List Exchange) :
    List Exchange :=
  match value with
  | .ok _ => exchanges
  | .error _ => exchanges.dropLast

def endNotes : Except ServiceError Transcript → List Log.Record
  | .ok t => [endNote t]
  | .error _ => []

/-- The first record tells the name of the client, however odd it is. -/
theorem startNote_inj {other : Request} (h : startNote other = startNote request) :
    other.name = request.name := by
  have hquote : Text.quote other.name = Text.quote request.name := by simpa [startNote] using h
  exact Text.quote_injective hquote

theorem mem_endNotes {r : Log.Record} {value : Except ServiceError Transcript}
    (hr : r ∈ endNotes value) : r.source = .session ∧ r.level = .info := by
  cases value with
  | error e => simp [endNotes] at hr
  | ok t =>
    obtain rfl := List.mem_singleton.1 hr
    exact ⟨rfl, rfl⟩

theorem notes_eq_entry (hc : x.call = stage.next request now past) :
    stage.notes x = stage.entry x := by
  obtain ⟨call, reply⟩ := x
  subst hc
  cases stage with
  | noop | reset => rfl
  | first =>
    have hwarns : Stage.first.warns ⟨Stage.first.next request now past, reply⟩ = false := by
      simp only [Stage.warns, bne_self_eq_false, Bool.and_false, Bool.false_or]
      rfl
    rw [Stage.entry, hwarns]
    cases reply <;> rfl
  | _ => cases reply <;> rfl

/-- What a stage writes of an exchange at which the session may break off. -/
def Stage.written (stage : Stage) (x : Exchange) : List Log.Record :=
  if (stage.unexpected? x).isSome then [] else stage.notes x

theorem log_follow (stages : List Stage) (past : List Exchange) (s : σ) :
    let c := (follow request now stages past).run service.muted s
    c.log = (List.zipWith Stage.written stages c.exchanges).flatten ++ endNotes c.value := by
  induction stages generalizing past s with
  | nil => rfl
  | cons stage stages ih =>
    simp only [follow, Dialogue.run, Service.muted, List.nil_append, Stage.proceed]
    -- Behind a stage that breaks off there are no exchanges, and so the zip ends with it.
    cases hx : stage.unexpected? ⟨stage.next request now past, (service.answer s _).1⟩ with
    | some e => simp [Dialogue.run, Stage.written, hx, endNotes]
    | none =>
      have hrest := ih (past ++ [⟨stage.next request now past, (service.answer s _).1⟩])
        (service.answer s (stage.next request now past)).2.1
      simp only [(run_notes _ _).1, (run_notes _ _).2, Dialogue.log_run_notes]
      simpa [Stage.written, hx, Service.muted] using hrest

theorem Passed.written_eq (h : Passed request now before past) :
    List.zipWith Stage.written before past = List.zipWith Stage.entry before past := by
  induction h with
  | start => rfl
  | step h hc hx ih =>
    rw [List.zipWith_append h.length_eq, List.zipWith_append h.length_eq, ih]
    simp [Stage.written, hx, notes_eq_entry hc]

/-- Each stage gone through leaves the record of its step, and at most one warning beside it. -/
theorem Passed.steps_of_entries (h : Passed request now before past) :
    (List.zipWith Stage.entry before past).flatten.filter (·.level == .debug) =
      past.map fun x => (stepOf x).note := by
  induction h with
  | start => rfl
  | @step before past stage x h hc hx ih =>
    rw [List.zipWith_append h.length_eq, List.flatten_append, List.filter_append, ih]
    have hstep : (stage.entry x).filter (·.level == .debug) = [(stepOf x).note] := by
      unfold Stage.entry
      split <;> rfl
    simp [hstep]

theorem mem_entry {r : Log.Record} (hr : r ∈ stage.entry x) :
    r.source = .session ∧ r.level ≠ .info := by
  unfold Stage.entry Step.note at hr
  split at hr
  · rcases List.mem_cons.1 hr with rfl | hr
    · simp
    · obtain rfl := List.mem_singleton.1 hr
      simp
  · obtain rfl := List.mem_singleton.1 hr
    simp

theorem Passed.mem_entries (h : Passed request now before past) :
    ∀ r ∈ (List.zipWith Stage.entry before past).flatten,
      r.source = .session ∧ r.level ≠ .info := by
  induction h with
  | start => simp
  | step h hc hx ih =>
    intro r hr
    rw [List.zipWith_append h.length_eq, List.flatten_append] at hr
    rcases List.mem_append.1 hr with hr | hr
    · exact ih r hr
    · exact mem_entry (by simpa using hr)

/-- The exchanges that are recorded are those of the stages gone through, and only these write. -/
theorem Ended.recorded_eq {all : List Stage} {xs : List Exchange}
    {r : Except ServiceError Transcript} (h : Ended request now all xs r) :
    ∃ before, Passed request now before (recorded r xs) ∧
      List.zipWith Stage.entry all (recorded r xs) =
        List.zipWith Stage.entry before (recorded r xs) ∧
      (List.zipWith Stage.written all xs).flatten =
        (List.zipWith Stage.entry before (recorded r xs)).flatten := by
  cases h with
  | completed h => exact ⟨all, h, rfl, by rw [h.written_eq]; rfl⟩
  | @broken before after past stage x e h hall hc hx =>
    have hpast : recorded (.error e) (past ++ [x]) = past := List.dropLast_concat
    have hentries : List.zipWith Stage.entry (before ++ stage :: after) (past ++ []) =
        List.zipWith Stage.entry before past := by
      rw [List.zipWith_append h.length_eq]
      simp
    rw [List.append_nil] at hentries
    rw [hpast, hall]
    refine ⟨before, h, hentries, ?_⟩
    rw [List.zipWith_append h.length_eq, h.written_eq]
    simp [Stage.written, hx]

theorem Ended.steps_eq {all : List Stage} {xs : List Exchange} {t : Transcript}
    (h : Ended request now all xs (.ok t)) : t.steps = xs.map stepOf := by
  cases h
  rfl

theorem Ended.length_recorded {all : List Stage} {xs : List Exchange}
    (h : Ended request now all xs (.error e)) :
    (recorded (.error e) xs).length + 1 = xs.length := by
  cases h
  simp [recorded]

section

variable {r : Except ServiceError Transcript} {entries : List Log.Record}

theorem filter_debug_records (request : Request) :
    (startNote request :: entries ++ endNotes r).filter (·.level == .debug) =
      entries.filter (·.level == .debug) := by
  have hend : (endNotes r).filter (·.level == .debug) = [] := by
    rw [List.filter_eq_nil_iff]
    intro record hrecord
    simp [(mem_endNotes hrecord).2]
  rw [List.cons_append, List.filter_cons, List.filter_append, hend, List.append_nil]
  rfl

theorem filter_info_records (request : Request) (h : ∀ record ∈ entries, record.level ≠ .info) :
    (startNote request :: entries ++ endNotes r).filter (·.level == .info) =
      startNote request :: endNotes r := by
  have hnone : entries.filter (·.level == .info) = [] := by
    rw [List.filter_eq_nil_iff]
    intro record hrecord
    simp [h record hrecord]
  have hend : (endNotes r).filter (·.level == .info) = endNotes r := by
    rw [List.filter_eq_self]
    intro record hrecord
    simp [(mem_endNotes hrecord).2]
  rw [List.cons_append, List.filter_cons, List.filter_append, hnone, hend]
  rfl

theorem source_of_mem_records (h : ∀ record ∈ entries, record.source = .session) :
    ∀ record ∈ startNote request :: entries ++ endNotes r, record.source = .session := by
  intro record hrecord
  rcases List.mem_append.1 hrecord with hrecord | hrecord
  · rcases List.mem_cons.1 hrecord with rfl | hrecord
    · rfl
    · exact h record hrecord
  · exact (mem_endNotes hrecord).1

end

/-- All records that a session writes itself. -/
theorem log_muted (service : Service σ) (s : σ) (request : Request) (now : Timestamp) :
    ((dialogue request now).run service.muted s).log = startNote request ::
      (List.zipWith Stage.written (plan request.images.toNat)
        ((dialogue request now).run service s).exchanges).flatten ++
        endNotes ((dialogue request now).run service s).value := by
  obtain ⟨hvalue, -, hexchanges⟩ := Dialogue.run_muted (dialogue request now) service s
  rw [← hvalue, ← hexchanges, dialogue_eq_follow]
  exact congrArg (startNote request :: ·) (log_follow _ _ s)

/-- A session writes one record to begin with, which tells the name of the client, and one at the
end just if it succeeds. Between them each exchange that it does not break off at has its step,
marked if its call presented a key, behind a warning if an image was found under the reserved id,
other than in looking up the first upload, or if the last call was answered with the time. A service
that does not write in the session's name adds no such records. -/
theorem log_accounts_for_calls (service : Service σ) (s : σ) (request : Request)
    (now : Timestamp) :
    let c := (dialogue request now).run service s
    let records := ((dialogue request now).run service.muted s).log
    let xs := recorded c.value c.exchanges
    records = startNote request ::
      (List.zipWith Stage.entry (plan request.images.toNat) xs).flatten ++ endNotes c.value ∧
    records.filter (·.level == .debug) = xs.map (fun x => (stepOf x).note) ∧
    (∀ x ∈ xs, (stepOf x).method.requiresKey = x.call.key?.isSome) ∧
    (∀ other, startNote other = startNote request → other.name = request.name) ∧
    records.filter (·.level == .info) = startNote request :: endNotes c.value ∧
    (∀ t, c.value = .ok t → t.steps = xs.map stepOf) ∧
    (∀ e, c.value = .error e → xs.length + 1 = c.exchanges.length) ∧
    ((∀ s call, ∀ r ∈ (service.answer s call).2.2, r.source ≠ .session) →
      c.log.filter (·.source == .session) = records) := by
  dsimp only
  have hend := run_ended service s request now
  obtain ⟨before, hpassed, hentries, hwritten⟩ := hend.recorded_eq
  have hsteps := hpassed.steps_of_entries
  have hbetween := hpassed.mem_entries
  have hlog := log_muted service s request now
  rw [hwritten, ← hentries] at hlog
  rw [← hentries] at hsteps hbetween
  refine ⟨hlog, ?_, fun x _ => x.call.isSome_key?.symm, fun _ => startNote_inj, ?_, ?_, ?_, ?_⟩
  · rw [hlog, filter_debug_records, hsteps]
  · rw [hlog, filter_info_records request fun record hrecord => (hbetween record hrecord).2]
  · intro t ht
    rw [ht] at hend ⊢
    exact hend.steps_eq
  · intro e he
    rw [he] at hend ⊢
    exact hend.length_recorded
  · intro hquiet
    have hown : ∀ record ∈ ((dialogue request now).run service.muted s).log,
        record.source = .session :=
      hlog ▸ source_of_mem_records fun record hrecord => (hbetween record hrecord).1
    have hfilter : ((dialogue request now).run service s).log.filter (·.source == .session) =
        ((dialogue request now).run service.muted s).log.filter (·.source == .session) := by
      apply Dialogue.filter_log
      intro s call r hr
      simpa using hquiet s call r hr
    rw [hfilter, List.filter_eq_self]
    simpa using hown

/-- At the stand-in, which writes records of its own, a session with one upload writes eleven of the
twenty. -/
theorem log_accounts_for_calls_overheard :
    let c := (dialogue ⟨"n", 1⟩ Timestamp.zero).run MockService.service (.new ⟨"k"⟩)
    let records := ((dialogue ⟨"n", 1⟩ Timestamp.zero).run MockService.service.muted
      (.new ⟨"k"⟩)).log
    (∀ s call, ∀ r ∈ (MockService.service.answer s call).2.2, r.source ≠ .session) ∧
      c.log.length = 20 ∧ records.length = 11 ∧
      c.log.filter (·.source == .session) = records := by
  intro c records
  have hquiet : ∀ s call, ∀ r ∈ (MockService.service.answer s call).2.2, r.source ≠ .session :=
    fun _ _ _ => MockService.source_ne_session
  have h := log_accounts_for_calls MockService.service (.new ⟨"k"⟩) ⟨"n", 1⟩ Timestamp.zero
  exact ⟨hquiet, by decide +kernel, by decide +kernel, h.2.2.2.2.2.2.2 hquiet⟩

/-- The service gives the first upload the reserved id and has an image for it. The image is found
twice, in the lookup of the reserved id and in that of the first upload, and warned of once. -/
theorem reserved_upload_unwarned :
    let script : ScriptedService :=
      { hello := ⟨.ok "hi", []⟩, auth := ⟨.ok "k", []⟩
        getServerTime := ⟨.ok ⟨5, 0⟩, [.error .invalidKey]⟩
        postImage := ⟨.ok ⟨0⟩, []⟩, getImage := ⟨.ok Image.empty, []⟩ }
    let c := (dialogue ⟨"n", 1⟩ Timestamp.zero).run ScriptedService.service script
    c.exchanges.map Exchange.foundReserved =
        [false, false, false, false, false, true, true, false, false] ∧
      c.log.map (·.level) = [.info, .debug, .debug, .debug, .debug, .debug, .warn, .debug, .debug,
        .debug, .debug, .info] ∧
      c.log.countP (·.level == .warn) ≠ c.exchanges.countP Exchange.foundReserved := by
  decide +kernel

end Session

end KeyedImages
