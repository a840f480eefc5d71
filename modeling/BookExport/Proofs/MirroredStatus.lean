import BookExport.Proofs.ThrottleRecords
import Mathlib.Data.List.Induction

/-! What others read of a job in the store is never of an earlier phase than the last that came about the job: a snapshot that
is not written tells of the phase of the one in the store, and that one is younger than the interval. -/

namespace BookExport.Proofs.MirroredStatus
open Throttle Mirror ThrottleRecords

theorem key_injective {id other : JobId} (same : key id = key other) : id = other := by
  obtain ⟨text⟩ := id
  obtain ⟨otherText⟩ := other
  exact congrArg JobId.mk ((String.append_right_inj _).mp same)

private theorem get?_put (store : Store) (w : Write) (now : Nat) (wanted : String) :
    (store.put w now).get? wanted = if wanted = w.key then some ⟨w, now⟩ else store.get? wanted := by
  have behind : (store.put w now).get? wanted = if wanted = w.key then some ⟨w, now⟩
      else (store.entries.filter fun entry => entry.1 != w.key).lookup wanted := by
    simp only [Store.get?, Store.put, List.lookup_cons]
    by_cases here : wanted = w.key
    · simp [here]
    · simp [here, beq_eq_false_iff_ne.mpr here]
  rw [behind, lookup_without]
  split <;> rfl

/-- No job waits again after it has left the queue, and nothing comes about a job after its end. -/
def Orderly (arrived : List (Snapshot × Nat)) : Prop :=
  arrived.Pairwise fun first later => first.1.jobId = later.1.jobId →
    first.1.status.isTerminal = false ∧ (later.1.status = .queued → first.1.status = .queued)

instance (arrived : List (Snapshot × Nat)) : Decidable (Orderly arrived) := inferInstanceAs (Decidable (List.Pairwise ..))

/-- What the store shows of a job, and what the throttle remembers of it, when the last that came about it was `s` at
`now`. -/
structure Shown (interval : Nat) (before : List (Snapshot × Nat)) (s : Snapshot) (now : Nat) (record : Option (Nat × Status))
    (e : Entry) : Prop where
  write : e.write = writeOf e.write.snapshot
  status : e.write.snapshot.status = s.status
  /-- The last itself is in the store, or one that came less than the interval earlier in the same phase. -/
  recent : e = ⟨writeOf s, now⟩ ∨ (e.write.snapshot, e.time) ∈ before ∧ now - e.time < interval ∧
    s.status.isActive = true ∧ before.getLast?.map (·.1.status) = some s.status
  record : record = if s.status.isActive then some (e.time, s.status) else none

theorem Shown.written {interval : Nat} (before : List (Snapshot × Nat)) (s : Snapshot) (now : Nat) :
    Shown interval before s now (if s.status.isActive then some (now, s.status) else none) ⟨writeOf s, now⟩ :=
  ⟨rfl, rfl, .inl rfl, rfl⟩

theorem Shown.skipped {interval : Nat} {before : List (Snapshot × Nat)} {s t : Snapshot} {earlier now last : Nat} {e : Entry}
    (shown : Shown interval before s earlier (some (last, t.status)) e) (active : t.status.isActive = true)
    (early : now - last < interval) :
    Shown interval (before ++ [(s, earlier)]) t now (some (last, t.status)) e := by
  have record := shown.record
  split at record
  next =>
    obtain ⟨rfl, same⟩ := Prod.mk.inj (Option.some.inj record)
    refine ⟨shown.write, shown.status.trans same.symm, .inr ⟨?_, early, active, by simp [same]⟩, by rw [if_pos active]⟩
    rcases shown.recent with rfl | ⟨present, -⟩
    · exact List.mem_append_right _ List.mem_cons_self
    · exact List.mem_append_left _ present
  next => cases record

section
variable {interval : Nat} {story : List (Snapshot × Nat)} {record : Option (Nat × Status)} {value : Option Entry}

/-- What is known of one job after its story so far. -/
structure Known (interval : Nat) (story : List (Snapshot × Nat)) (record : Option (Nat × Status)) (value : Option Entry) :
    Prop where
  unseen : story = [] → record = none
  shown : ∀ before s now, story = before ++ [(s, now)] → ∃ e, value = some e ∧ Shown interval before s now record e

theorem Known.waits (known : Known interval story record value) (queued : ∀ arrival ∈ story, arrival.1.status = .queued) :
    record = none := by
  obtain rfl | ⟨before, ⟨s, now⟩, rfl⟩ := List.eq_nil_or_concat story
  · exact known.unseen rfl
  · rw [List.concat_eq_append] at known queued
    obtain ⟨e, -, shown⟩ := known.shown before s now rfl
    have waiting : s.status = .queued := queued _ (List.mem_append_right _ List.mem_cons_self)
    rw [shown.record, waiting]
    rfl

/-- One more snapshot of the job. It was in the queue before if it still is. -/
theorem Known.take (known : Known interval story record value) {s : Snapshot} {now : Nat}
    (waited : s.status = .queued → ∀ arrival ∈ story, arrival.1.status = .queued) {isWritten : Bool}
    {recordAfter : Option (Nat × Status)} (ruling : Ruling interval s now record isWritten recordAfter) :
    Known interval (story ++ [(s, now)]) recordAfter (if isWritten then some ⟨writeOf s, now⟩ else value) := by
  refine ⟨by simp, ?_⟩
  intro before last moment split
  obtain ⟨rfl, single⟩ := List.append_inj' split rfl
  obtain ⟨rfl, rfl⟩ := Prod.mk.inj (List.singleton_inj.mp single)
  have written : (if s.status.isActive then some (now, s.status) else none) = recordAfter →
      Shown interval story s now recordAfter ⟨writeOf s, now⟩ := fun same => same ▸ .written story s now
  cases ruling with
  | ended _ terminal => exact ⟨_, rfl, written (by simp [Status.isActive, terminal])⟩
  | waits _ queued => exact ⟨_, rfl, written (by simp [Status.isActive, queued, known.waits (waited queued)])⟩
  | recorded _ active => exact ⟨_, rfl, written (if_pos active)⟩
  | skipped last active early =>
    obtain rfl | ⟨earlier, ⟨t, moment⟩, rfl⟩ := List.eq_nil_or_concat story
    · cases known.unseen rfl
    · rw [List.concat_eq_append] at known ⊢
      obtain ⟨e, held, shown⟩ := known.shown earlier t moment rfl
      exact ⟨e, held, shown.skipped active early⟩

end

/-- Every job is known by its own story. -/
structure Faithful (interval : Nat) (arrived : List (Snapshot × Nat)) (m : Session) : Prop where
  paced : m.throttle.interval = interval
  known : ∀ id, Known interval (ofJob id arrived) (m.throttle.record? id) (m.store.get? (key id))

private theorem faithful_initial (interval : Nat) : Faithful interval [] { throttle := { interval } } :=
  ⟨rfl, fun _ => ⟨fun _ => rfl, by simp [ofJob]⟩⟩

private theorem ofJob_concat (arrived : List (Snapshot × Nat)) (s : Snapshot) (now : Nat) (id : JobId) :
    ofJob id (arrived ++ [(s, now)]) = if s.jobId = id then ofJob id arrived ++ [(s, now)] else ofJob id arrived := by
  by_cases about : s.jobId = id
  · simp [ofJob, about]
  · simp [ofJob, about]

private theorem get?_take (m : Session) (s : Snapshot) (now : Nat) (id : JobId) :
    (m.take s now).store.get? (key id) =
      if s.jobId = id then (if (m.throttle.decide s now).1 then some ⟨writeOf s, now⟩ else m.store.get? (key id))
      else m.store.get? (key id) := by
  have mine : key id = (writeOf s).key ↔ s.jobId = id :=
    ⟨fun same => (key_injective same).symm, fun same => congrArg key same.symm⟩
  rw [Session.store_take]
  split
  · simp only [get?_put, mine]
  · exact (ite_self _).symm

theorem Faithful.take {interval : Nat} {arrived : List (Snapshot × Nat)} {m : Session}
    (faithful : Faithful interval arrived m) {s : Snapshot} {now : Nat} (orderly : Orderly (arrived ++ [(s, now)])) :
    Faithful interval (arrived ++ [(s, now)]) (m.take s now) := by
  refine ⟨by rw [Session.throttle_take, interval_decide, faithful.paced], ?_⟩
  intro id
  rw [ofJob_concat, get?_take, Session.throttle_take]
  split
  next about =>
    subst about
    have ruling := ruling_decide m.throttle s now
    rw [faithful.paced] at ruling
    refine (faithful.known s.jobId).take ?_ ruling
    intro queued arrival member
    obtain ⟨inside, same⟩ := List.mem_filter.mp member
    have order := (List.pairwise_append.mp orderly).2.2 arrival inside (s, now) List.mem_cons_self
    exact (order (by simpa using same)).2 queued
  next other =>
    rw [record?_decide_other other]
    exact faithful.known id

theorem faithful_run (interval : Nat) (arrived : List (Snapshot × Nat)) (orderly : Orderly arrived) :
    Faithful interval arrived (Session.run { throttle := { interval } } arrived) := by
  induction arrived using List.reverseRecOn with
  | nil => exact faithful_initial interval
  | append_singleton arrived arrival ih =>
    rw [Session.run_concat]
    exact (ih (List.pairwise_append.mp orderly).1).take orderly

private theorem last_of_ended {arrived before : List (Snapshot × Nat)} (orderly : Orderly arrived) {id : JobId} {s : Snapshot}
    {now : Nat} (story : ofJob id arrived = before ++ [(s, now)]) {arrival : Snapshot × Nat} (inside : arrival ∈ arrived)
    (about : arrival.1.jobId = id) (terminal : arrival.1.status.isTerminal = true) : s.status.isTerminal = true := by
  have here : arrival ∈ ofJob id arrived := List.mem_filter.mpr ⟨inside, by simpa using about⟩
  have last : (s, now) ∈ ofJob id arrived := by simp [story]
  have order : Orderly (before ++ [(s, now)]) := story ▸ orderly.sublist List.filter_sublist
  rw [story] at here
  rcases List.mem_append.mp here with early | late
  · have sameJob : arrival.1.jobId = s.jobId := by
      have named : s.jobId = id := by simpa using (List.mem_filter.mp last).2
      rw [about, named]
    have goesOn := ((List.pairwise_append.mp order).2.2 arrival early (s, now) List.mem_cons_self sameJob).1
    rw [terminal] at goesOn
    cases goesOn
  · rw [List.mem_singleton.mp late] at terminal
    exact terminal

/-- Snapshots of any jobs come in time and in order, and the store takes every write. Then, of every job and at any moment:
what is stored tells of the phase of the last that came. It is that one itself if the job waits, has ended or has just
changed its phase, and else one that came less than the interval before it, which can still be read unless the
interval is longer than values live. Of a job that has ended the throttle remembers nothing. -/
theorem stored_status_is_current (interval : Nat) (arrived : List (Snapshot × Nat))
    (inTime : arrived.Pairwise (·.2 ≤ ·.2)) (orderly : Orderly arrived) :
    let m := Session.run { throttle := { interval } } arrived
    (∀ id before s now, ofJob id arrived = before ++ [(s, now)] →
      ∃ e, m.store.get? (key id) = some e ∧ e.write = writeOf e.write.snapshot ∧
        (e.write.snapshot, e.time) ∈ before ++ [(s, now)] ∧ e.write.snapshot.status = s.status ∧
        (s.status = .queued ∨ s.status.isTerminal = true ∨ before.getLast?.map (·.1.status) ≠ some s.status →
          e = ⟨writeOf s, now⟩) ∧
        (e = ⟨writeOf s, now⟩ ∨ e.time ≤ now ∧ now - e.time < interval) ∧
        (interval ≤ lifetime * 1000 → e.isAlive now = true)) ∧
      ∀ arrival ∈ arrived, arrival.1.status.isTerminal = true → arrival.1.jobId ∉ m.throttle.tracked := by
  intro m
  have faithful := faithful_run interval arrived orderly
  refine ⟨?_, ?_⟩
  · intro id before s now story
    obtain ⟨e, held, shown⟩ := (faithful.known id).shown before s now story
    refine ⟨e, held, shown.write, ?_, shown.status, ?_, ?_, ?_⟩
    · rcases shown.recent with rfl | ⟨present, -⟩
      · exact List.mem_append_right _ List.mem_cons_self
      · exact List.mem_append_left _ present
    · intro changed
      rcases shown.recent with itself | ⟨-, -, active, same⟩
      · exact itself
      · rcases changed with queued | terminal | different
        · rw [queued] at active
          cases active
        · rw [Status.isActive, terminal] at active
          cases active
        · exact absurd same different
    · rcases shown.recent with itself | ⟨present, early, -⟩
      · exact .inl itself
      · have order : (before ++ [(s, now)]).Pairwise (·.2 ≤ ·.2) := story ▸ inTime.sublist List.filter_sublist
        exact .inr ⟨(List.pairwise_append.mp order).2.2 _ present _ List.mem_cons_self, early⟩
    · intro short
      have lives : e.write.lifetime = lifetime := by rw [shown.write]; rfl
      have young : now < e.time + lifetime * 1000 := by
        rcases shown.recent with rfl | ⟨-, early, -⟩
        · exact Nat.lt_add_of_pos_right (by decide)
        · omega
      rw [Entry.isAlive, lives]
      exact decide_eq_true young
  · intro arrival inside terminal
    have here : arrival ∈ ofJob arrival.1.jobId arrived := List.mem_filter.mpr ⟨inside, by simp⟩
    obtain empty | ⟨before, ⟨s, now⟩, story⟩ := List.eq_nil_or_concat (ofJob arrival.1.jobId arrived)
    · rw [empty] at here
      cases here
    · rw [List.concat_eq_append] at story
      have ended := last_of_ended orderly story inside rfl terminal
      obtain ⟨e, -, shown⟩ := (faithful.known arrival.1.jobId).shown before s now story
      have forgotten : m.throttle.record? arrival.1.jobId = none := by
        rw [shown.record, Status.isActive, ended]
        rfl
      intro tracked
      obtain ⟨entry, member, same⟩ := List.mem_map.mp tracked
      have other := List.lookup_eq_none_iff.mp forgotten entry member
      simp [same] at other

def report (name : String) (status : Status) (percentage : UInt8) : Snapshot :=
  { (default : Snapshot) with jobId := ⟨name⟩, status, percentage }

/-- While one job waits and ends, the other reports four times: in two phases of the same rank, and in the second one too
often. -/
def twoJobs : List (Snapshot × Nat) :=
  [(report "a" .starting 0, 0), (report "b" .queued 0, 5), (report "a" .generatingPdf 70, 10), (report "a" .generatingEpub 80, 20),
    (report "b" .cancelled 0, 30), (report "a" .generatingEpub 90, 200)]

theorem stored_status_is_current_two_jobs :
    let m := Session.run { throttle := { interval := 250 } } twoJobs
    twoJobs.Pairwise (·.2 ≤ ·.2) ∧ Orderly twoJobs ∧
      m.store.get? (key ⟨"a"⟩) = some ⟨writeOf (report "a" .generatingEpub 80), 20⟩ ∧ m.throttle.tracked = [⟨"a"⟩] ∧
      (writeOf (report "a" .generatingEpub 80)).snapshot.status = (report "a" .generatingEpub 90).status ∧
      ⟨"b"⟩ ∉ m.throttle.tracked := by
  have inTime : twoJobs.Pairwise (·.2 ≤ ·.2) := by decide
  have orderly : Orderly twoJobs := by decide
  obtain ⟨shown, forgotten⟩ := stored_status_is_current 250 twoJobs inTime orderly
  obtain ⟨e, held, -, -, status, -⟩ := shown ⟨"a"⟩ [(report "a" .starting 0, 0), (report "a" .generatingPdf 70, 10),
    (report "a" .generatingEpub 80, 20)] (report "a" .generatingEpub 90) 200 rfl
  have stored : some e = some ⟨writeOf (report "a" .generatingEpub 80), 20⟩ := held.symm.trans rfl
  obtain rfl := Option.some.inj stored
  exact ⟨inTime, orderly, rfl, rfl, status, forgotten (report "b" .cancelled 0, 30) (by simp [twoJobs]) rfl⟩

end BookExport.Proofs.MirroredStatus
