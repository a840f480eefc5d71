import BookExport.Config
import BookExport.Proofs.BoundedNumbers
import BookExport.Proofs.TrimmedTexts

/-! Settings as they are loaded. Loading succeeds exactly when every numeric setting is left out or holds a number within
its bound, and otherwise tells the first that does not. It reads one setting after the other, so what is known of one
reading is kept while the next ones go on. -/

namespace BookExport.Proofs.LoadedSettings
open BoundedNumbers TrimmedTexts

section
variable {lookup : String → Option String} {s : NumberSetting} {name : String}

/-- Unset, or nothing but blanks. -/
def Missing (text : Option String) : Prop := ∀ given, text = some given → Blank given.toList

/-- The number of a setting: its standard where it is missing, otherwise the one that is written there. -/
inductive Gives (lookup : String → Option String) (s : NumberSetting) : Nat → Prop
  | standard (missing : Missing (lookup s.name)) : Gives lookup s s.standard
  | written {text : String} {middle : List Char} {n : Nat} (given : lookup s.name = some text)
      (trims : Trims text.toList middle) (denotes : Denotes middle n) (fits : n ≤ s.most) : Gives lookup s n

/-- What is told of a setting that holds no number within its bound. -/
structure Refuses (lookup : String → Option String) (s : NumberSetting) (fault : ConfigFault) : Prop where
  name : fault.name = s.name
  value : ∃ text, lookup s.name = some text ∧ Trims text.toList fault.value.toList
  visible : fault.value ≠ ""
  stray : ∀ n, Denotes fault.value.toList n → s.most < n
  message : fault.message = s.name ++ " must be a valid number, got " ++ Text.quoted fault.value

private theorem nonBlank?_eq_none {text : String} : Text.nonBlank? text = none ↔ Blank text.toList := by
  rw [← trimChars_eq_nil, ← String.ofList_eq_empty_iff, ← Text.trim, Text.nonBlank?]
  simp

private theorem nonBlank?_eq_some {text value : String} :
    Text.nonBlank? text = some value ↔ Trims text.toList value.toList ∧ value ≠ "" := by
  have trimmed : Trims text.toList value.toList ↔ Text.trim text = value := by
    rw [trims_iff, Text.trim, ← String.toList_inj, String.toList_ofList]
  rw [trimmed, Text.nonBlank?]
  by_cases nothing : (Text.trim text).isEmpty = true
  · rw [if_pos nothing, String.isEmpty_iff.mp nothing]
    constructor
    · rintro ⟨⟩
    · rintro ⟨rfl, visible⟩
      exact absurd rfl visible
  · rw [if_neg nothing, Option.some.injEq]
    refine ⟨?_, And.left⟩
    rintro rfl
    exact ⟨rfl, mt String.isEmpty_iff.mpr nothing⟩

private theorem text?_eq_none : Config.text? lookup name = none ↔ Missing (lookup name) := by
  simp only [Config.text?, Option.bind_eq_none_iff, nonBlank?_eq_none, Missing]

private theorem text?_eq_some {value : String} : Config.text? lookup name = some value ↔
    (∃ text, lookup name = some text ∧ Trims text.toList value.toList) ∧ value ≠ "" := by
  simp only [Config.text?, Option.bind_eq_some_iff, nonBlank?_eq_some, ← and_assoc, exists_and_right]

private theorem gives_missing (missing : Missing (lookup s.name)) {n : Nat} : Gives lookup s n ↔ n = s.standard := by
  constructor
  · intro gives
    cases gives with
    | standard => rfl
    | written given trims denotes =>
      have nothing := trims.eq.symm.trans (trimChars_eq_nil.mpr (missing _ given))
      exact absurd nothing denotes.ne_nil
  · rintro rfl
    exact .standard missing

private theorem gives_written {value : String} (set : Config.text? lookup s.name = some value) {n : Nat} :
    Gives lookup s n ↔ Denotes value.toList n ∧ n ≤ s.most := by
  obtain ⟨⟨text, given, trims⟩, visible⟩ := text?_eq_some.mp set
  constructor
  · intro gives
    cases gives with
    | standard missing =>
      rw [text?_eq_none.mpr missing] at set
      cases set
    | written alsoGiven alsoTrims denotes fits =>
      obtain rfl := Option.some.inj (given.symm.trans alsoGiven)
      rw [trims.eq.symm.trans alsoTrims.eq]
      exact ⟨denotes, fits⟩
  · rintro ⟨denotes, fits⟩
    exact .written given trims denotes fits

theorem read_eq_ok {n : Nat} : s.read (Config.text? lookup) = .ok n ↔ Gives lookup s n := by
  rw [NumberSetting.read]
  split
  next unset =>
    rw [gives_missing (text?_eq_none.mp unset), Except.ok.injEq, eq_comm]
  next value set =>
    rw [gives_written set, ← readBounded_eq_ok]
    split
    next number read => rw [read, Except.ok.injEq, Except.ok.injEq]
    next cause read =>
      rw [read]
      exact ⟨nofun, nofun⟩

private theorem refuses_of_read {fault : ConfigFault} (read : s.read (Config.text? lookup) = .error fault) :
    Refuses lookup s fault := by
  have none (n : Nat) : ¬Gives lookup s n := by
    rw [← read_eq_ok, read]
    exact nofun
  rw [NumberSetting.read] at read
  split at read
  next => cases read
  next value set =>
    obtain ⟨given, visible⟩ := text?_eq_some.mp set
    split at read
    next => cases read
    next cause _ =>
      cases read
      refine ⟨rfl, given, visible, ?_, rfl⟩
      intro n denotes
      exact Nat.lt_of_not_le fun fits => none n ((gives_written set).mpr ⟨denotes, fits⟩)

theorem Refuses.none {fault : ConfigFault} (refuses : Refuses lookup s fault) (n : Nat) : ¬Gives lookup s n := by
  have set := text?_eq_some.mpr ⟨refuses.value, refuses.visible⟩
  rw [gives_written set]
  rintro ⟨denotes, fits⟩
  exact absurd fits (Nat.not_le_of_lt (refuses.stray n denotes))

theorem Gives.le_most {n : Nat} (gives : Gives lookup s n) (standard : s.standard ≤ s.most) : n ≤ s.most := by
  cases gives with
  | standard => exact standard
  | written _ _ _ fits => exact fits

theorem Gives.unique {n m : Nat} (gives : Gives lookup s n) (alsoGives : Gives lookup s m) : n = m :=
  Except.ok.inj ((read_eq_ok.mpr gives).symm.trans (read_eq_ok.mpr alsoGives))

end

/-- The numeric settings, in the order in which they are read. -/
def numbers : List NumberSetting :=
  [.port, .requestRetries, .requestBackoff, .subscriberBuffer, .terminalRetention, .heartbeatSeconds, .mirrorInterval,
    .slowJobSeconds]

/-- The first of the settings that holds no number is told. -/
def FirstRefused (lookup : String → Option String) (settings : List NumberSetting) (fault : ConfigFault) : Prop :=
  ∃ before s after, settings = before ++ s :: after ∧ (∀ earlier ∈ before, ∃ n, Gives lookup earlier n) ∧
    Refuses lookup s fault

/-- The numbers that are loaded are those that the settings give. -/
structure Settled (lookup : String → Option String) (c : Config) : Prop where
  port : Gives lookup .port c.port
  requestRetries : Gives lookup .requestRetries c.requestRetries
  requestBackoff : Gives lookup .requestBackoff c.requestBackoff
  subscriberBuffer : Gives lookup .subscriberBuffer c.subscriberBuffer
  terminalRetention : Gives lookup .terminalRetention c.terminalRetention
  heartbeatSeconds : Gives lookup .heartbeatSeconds c.heartbeatSeconds
  mirrorInterval : Gives lookup .mirrorInterval c.mirrorInterval
  slowJobSeconds : Gives lookup .slowJobSeconds c.slowJobSeconds

section
variable {lookup : String → Option String} {Holds : Config → Prop} {settings : List NumberSetting}

/-- What comes of reading some settings one after the other: either all of them give a number and something holds of
what was loaded, or one is refused and the rest is not looked at. -/
inductive Loads (lookup : String → Option String) (Holds : Config → Prop) :
    List NumberSetting → Except ConfigFault Config → Prop
  | done {c : Config} (holds : Holds c) : Loads lookup Holds [] (.ok c)
  | given {s : NumberSetting} {n : Nat} {rest : List NumberSetting} {result : Except ConfigFault Config}
      (gives : Gives lookup s n) (later : Loads lookup Holds rest result) : Loads lookup Holds (s :: rest) result
  | refused {s : NumberSetting} {rest : List NumberSetting} {fault : ConfigFault} (refuses : Refuses lookup s fault) :
      Loads lookup Holds (s :: rest) (.error fault)

private theorem loads_bind {s : NumberSetting} {rest : List NumberSetting} {next : Nat → Except ConfigFault Config}
    (later : ∀ n, Gives lookup s n → Loads lookup Holds rest (next n)) :
    Loads lookup Holds (s :: rest) (s.read (Config.text? lookup) >>= next) := by
  cases read : s.read (Config.text? lookup) with
  | ok n =>
    have gives := read_eq_ok.mp read
    exact .given gives (later n gives)
  | error fault => exact .refused (refuses_of_read read)

theorem Loads.accepted {c : Config} (loads : Loads lookup Holds settings (.ok c)) :
    (∀ s ∈ settings, ∃ n, Gives lookup s n) ∧ Holds c := by
  generalize whole : Except.ok c = result at loads
  induction loads with
  | done holds =>
    cases whole
    exact ⟨nofun, holds⟩
  | given gives later ih =>
    obtain ⟨others, holds⟩ := ih whole
    exact ⟨List.forall_mem_cons.mpr ⟨⟨_, gives⟩, others⟩, holds⟩
  | refused => cases whole

theorem Loads.refused_first {fault : ConfigFault} (loads : Loads lookup Holds settings (.error fault)) :
    FirstRefused lookup settings fault := by
  generalize whole : Except.error fault = result at loads
  induction loads with
  | done => cases whole
  | given gives later ih =>
    obtain ⟨before, s, after, rfl, earlier, refuses⟩ := ih whole
    exact ⟨_ :: before, s, after, rfl, List.forall_mem_cons.mpr ⟨⟨_, gives⟩, earlier⟩, refuses⟩
  | refused refuses =>
    cases whole
    exact ⟨[], _, _, rfl, nofun, refuses⟩

theorem FirstRefused.not_all {fault : ConfigFault} (first : FirstRefused lookup settings fault) :
    ¬∀ s ∈ settings, ∃ n, Gives lookup s n := by
  obtain ⟨before, s, after, rfl, -, refuses⟩ := first
  intro all
  obtain ⟨n, gives⟩ := all s (by simp)
  exact refuses.none n gives

end

theorem loads_ofLookup (lookup : String → Option String) :
    Loads lookup (Settled lookup) numbers (Config.ofLookup lookup) := by
  apply loads_bind
  intro port isPort
  apply loads_bind
  intro retries isRetries
  apply loads_bind
  intro backoff isBackoff
  apply loads_bind
  intro buffer isBuffer
  apply loads_bind
  intro retention isRetention
  apply loads_bind
  intro heartbeat isHeartbeat
  apply loads_bind
  intro interval isInterval
  apply loads_bind
  intro slow isSlow
  exact .done ⟨isPort, isRetries, isBackoff, isBuffer, isRetention, isHeartbeat, isInterval, isSlow⟩

theorem accepted_iff (lookup : String → Option String) :
    (∃ c, Config.ofLookup lookup = .ok c) ↔ ∀ s ∈ numbers, ∃ n, Gives lookup s n := by
  have loads := loads_ofLookup lookup
  cases result : Config.ofLookup lookup with
  | ok c =>
    rw [result] at loads
    exact ⟨fun _ => loads.accepted.1, fun _ => ⟨c, rfl⟩⟩
  | error fault =>
    rw [result] at loads
    exact ⟨nofun, fun all => absurd all loads.refused_first.not_all⟩

/-- Two values of a variable that no setting tells apart. -/
def Interchangeable (text other : Option String) : Prop := text = other ∨ Missing text ∧ Missing other

private theorem text?_congr {lookup other : String → Option String} {name : String}
    (alike : Interchangeable (lookup name) (other name)) : Config.text? lookup name = Config.text? other name := by
  rcases alike with same | ⟨missing, alsoMissing⟩
  · rw [Config.text?, same, Config.text?]
  · rw [text?_eq_none.mpr missing, text?_eq_none.mpr alsoMissing]

private theorem ofLookup_congr {lookup other : String → Option String}
    (alike : ∀ name, Interchangeable (lookup name) (other name)) : Config.ofLookup lookup = Config.ofLookup other := by
  have texts : Config.text? lookup = Config.text? other := funext fun name => text?_congr (alike name)
  rw [Config.ofLookup, texts, Config.ofLookup]

theorem Gives.congr {lookup other : String → Option String} {s : NumberSetting} {n : Nat} (gives : Gives lookup s n)
    (same : other s.name = lookup s.name) : Gives other s n := by
  cases gives with
  | standard missing => exact .standard (same ▸ missing)
  | written given trims denotes fits => exact .written (same.trans given) trims denotes fits

/-- Exactly those settings are accepted whose numbers are left out or well written and within their bounds, and they are
loaded with these numbers; of all others the first one that is wrong is told. What is blank counts as unset, and nothing
but the numbers can be wrong. -/
theorem well_written_settings_are_accepted (lookup : String → Option String) :
    ((∃ c, Config.ofLookup lookup = .ok c) ↔ ∀ s ∈ numbers, ∃ n, Gives lookup s n) ∧
      (∀ c, Config.ofLookup lookup = .ok c → Settled lookup c) ∧
      (∀ fault, Config.ofLookup lookup = .error fault → FirstRefused lookup numbers fault) ∧
      (∀ other, (∀ name, Interchangeable (lookup name) (other name)) →
        Config.ofLookup lookup = Config.ofLookup other) ∧
      ∀ other, (∀ s ∈ numbers, other s.name = lookup s.name) →
        ((∃ c, Config.ofLookup lookup = .ok c) ↔ ∃ c, Config.ofLookup other = .ok c) := by
  have loads := loads_ofLookup lookup
  refine ⟨accepted_iff lookup, ?_, ?_, fun other => ofLookup_congr, ?_⟩
  · intro c accepted
    exact (accepted ▸ loads).accepted.2
  · intro fault refused
    exact (refused ▸ loads).refused_first
  · intro other same
    rw [accepted_iff, accepted_iff]
    refine forall₂_congr fun s member => exists_congr fun n => ?_
    exact ⟨fun gives => gives.congr (same s member), fun gives => gives.congr (same s member).symm⟩

/-- The greatest numbers, one of them with a sign, zeros and blanks, and a number that is blank. -/
def greatest (name : String) : Option String :=
  [("PORT", "\t+0065535 "), ("REQUEST_RETRIES", "\u3000"), ("SLOW_JOB_WARN_SECS", "18446744073709551615")].lookup name

def twiceWrong (name : String) : Option String :=
  [("SSE_HEARTBEAT_SECS", "ten"), ("REQUEST_RETRIES", " 4294967296\n")].lookup name

theorem well_written_settings_are_accepted_greatest :
    (∃ c, Config.ofLookup greatest = .ok c ∧ c.port = 65535 ∧ Gives greatest .port 65535 ∧
      Gives greatest .requestRetries 2 ∧ Gives greatest .slowJobSeconds 18446744073709551615) ∧
    Config.ofLookup greatest =
      Config.ofLookup (fun name => if name = "REQUEST_RETRIES" then none else greatest name) ∧
    (∃ c, Config.ofLookup (fun name => if name = "HOST" then some "ten" else greatest name) = .ok c) ∧
    FirstRefused twiceWrong numbers ⟨"REQUEST_RETRIES", "4294967296", .tooLarge⟩ := by
  obtain ⟨-, settled, -, alike, others⟩ := well_written_settings_are_accepted greatest
  obtain ⟨-, -, first, -⟩ := well_written_settings_are_accepted twiceWrong
  obtain ⟨c, accepted, port, retries, slow⟩ : ∃ c, Config.ofLookup greatest = .ok c ∧ c.port = 65535 ∧
      c.requestRetries = 2 ∧ c.slowJobSeconds = 18446744073709551615 := ⟨_, by rfl, by rfl, by rfl, by rfl⟩
  have settled := settled c accepted
  refine ⟨⟨c, accepted, port, port ▸ settled.port, retries ▸ settled.requestRetries, slow ▸ settled.slowJobSeconds⟩,
    alike _ ?_, (others _ (by decide)).mp ⟨c, accepted⟩, first _ (by rfl)⟩
  intro name
  by_cases blank : name = "REQUEST_RETRIES"
  · subst blank
    refine .inr ⟨?_, nofun⟩
    rintro _ ⟨⟩
    exact trimChars_eq_nil.mp (by rfl)
  · exact .inl (by simp [blank])

end BookExport.Proofs.LoadedSettings
