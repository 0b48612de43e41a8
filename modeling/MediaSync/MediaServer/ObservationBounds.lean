import MediaSync.MediaServer.ObservationRuns

/-!
# An observation is sound and bounded

The answers to the calls of an observation are any at all: the resolver, the
server, the clocks and the flags may say what they like, and raise. The server
is a machine that may answer a scan with turns for ever; the turns it is given
are a bound of the model alone.
-/

namespace MediaSync.MediaServer

open Program Observation ObservationService

variable {σ : Type} {answers : Answers ObservationCall ObservationCall.Reply σ} {s t : σ}
  {h : List ObservationEvent} {service : ObservationService} {target : PublicationTarget}
  {rounds turns : Nat}

/-- A result of the observation that is a success is one of its steps. -/
theorem observeAuthor_success {payload : ObservationPayload}
    (he : Executes answers (service.observeAuthor target turns rounds) s h
      (.ok (.success payload)) t) :
    Executes answers (service.observeSteps target turns rounds) s h (.ok (.success payload)) t := by
  rcases observeAuthor_cases he with hsteps | ⟨outcome, hx, hsteps⟩
  · exact hsteps
  · cases hx
    exact absurd rfl ((finishes_observeSteps _ _ _ _ hsteps).leaves payload)

/-- Once the accepted payload may have been saved, what is returned is settled. -/
theorem observeAuthor_settles {accepted : ObservationPayload}
    {reply : (ObservationCall.checkpoint .accepted accepted).Reply} {outcome : Outcome}
    (he : Executes answers (service.observeAuthor target turns rounds) s h (.ok outcome) t)
    (hsaved : ⟨.checkpoint .accepted accepted, reply⟩ ∈ h) : Settles accepted outcome := by
  rcases observeAuthor_cases he with hsteps | ⟨returned, hx, hsteps⟩
  · exact (finishes_observeSteps _ _ _ _ hsteps).concludes accepted reply hsaved
  · cases hx
    exact .inr ((finishes_observeSteps _ _ _ _ hsteps).concludes accepted reply hsaved)

theorem observeAuthor_lookups {x : Except Halt Outcome}
    (he : Executes answers (service.observeAuthor target turns rounds) s h x t) :
    h.countP (fun e => e.call.isLookup) = 0 ∨
      ∃ fingerprint summary profile, checkProfile fingerprint summary = .ok profile ∧
        ⟨.safeSummary, .ok summary⟩ ∈ h ∧
        h.countP (fun e => e.call.isLookup) ≤ service.limits.maximumPasses profile.provider := by
  rcases observeAuthor_cases he with hsteps | ⟨_, _, hsteps⟩
  · exact observeSteps_lookups hsteps
  · exact observeSteps_lookups hsteps

theorem avoids_polling : Avoids answers .polling (service.observeAuthor target turns rounds) s := by
  intro h t he
  rcases observeAuthor_cases he with hsteps | ⟨outcome, hx, -⟩
  · exact (finishes_observeSteps _ _ _ _ hsteps).leaves
  · cases hx

/-- A pass that takes all that is reserved for it, so many times, keeps within the limits. -/
theorem maximumPasses_fits (limits : ObservationLimits) (provider : Provider) {n : Nat}
    (hn : n ≤ limits.maximumPasses provider) :
    n * (passReservation provider).pages ≤ limits.maxPages ∧
      n * (passReservation provider).rows ≤ limits.maxRows ∧
      n * (passReservation provider).responseBytes ≤ limits.maxResponseBytes := by
  unfold ObservationLimits.maximumPasses at hn
  rw [Nat.le_min, Nat.le_min] at hn
  obtain ⟨hpages, hrows, hbytes⟩ := hn
  have hpositive : 0 < (passReservation provider).pages ∧ 0 < (passReservation provider).rows ∧
      0 < (passReservation provider).responseBytes := by
    cases provider with
    | emby => decide
    | jellyfin => decide
  exact ⟨(Nat.le_div_iff_mul_le hpositive.1).1 hpages,
    (Nat.le_div_iff_mul_le hpositive.2.1).1 hrows,
    (Nat.le_div_iff_mul_le hpositive.2.2).1 hbytes⟩

/-- A run of an observation, whatever it was told: a success has the evidence behind it and the
service read no cancellation, nor did the server where a flag that was set stays set; what is
returned after the accepted payload is a success or a failure with that payload that is not to be
retried, the lookups fit the limits at full reservation, and neither the loop of the polls nor,
with a clock that comes to the deadline, a wait is without end. -/
theorem observation_sound_and_bounded {x : Except Halt Outcome}
    (he : Executes answers (service.observeAuthor target turns rounds) s h x t) :
    (∀ payload, x = .ok (.success payload) →
      Observed service target payload h ∧
      (∀ e ∈ h, ¬ e.call.IsPoll → cancelReading e ≠ some true) ∧
      (Sticky h → ∀ e ∈ h, cancelReading e ≠ some true)) ∧
    (∀ accepted reply outcome, ⟨.checkpoint .accepted accepted, reply⟩ ∈ h → x = .ok outcome →
      (∃ payload, outcome = .success payload) ∨
        outcome = .failed .completionUnknown false (some accepted)) ∧
    (h.countP (fun e => e.call.isLookup) = 0 ∨
      ∃ fingerprint summary profile, checkProfile fingerprint summary = .ok profile ∧
        ⟨.safeSummary, .ok summary⟩ ∈ h ∧
        h.countP (fun e => e.call.isLookup) * (passReservation profile.provider).pages ≤
          service.limits.maxPages ∧
        h.countP (fun e => e.call.isLookup) * (passReservation profile.provider).rows ≤
          service.limits.maxRows ∧
        h.countP (fun e => e.call.isLookup) * (passReservation profile.provider).responseBytes ≤
          service.limits.maxResponseBytes) ∧
    x ≠ .error .polling ∧
    ∀ clock horizon, (∀ started u, answers .monotonic s (.ok (some started)) u →
        Clocked answers clock (started + service.limits.timeout) horizon) →
      horizon - clock s < rounds → x ≠ .error .waiting := by
  refine ⟨?_, ?_, ?_, ?_, ?_⟩
  · rintro payload rfl
    have hobserved := observeSteps_ok (observeAuthor_success he)
    exact ⟨hobserved, hobserved.uncancelled, hobserved.unpolled⟩
  · rintro accepted reply outcome hsaved rfl
    exact observeAuthor_settles he hsaved
  · rcases observeAuthor_lookups he with hnone | ⟨fingerprint, summary, profile, hcheck, hmem, hle⟩
    · exact .inl hnone
    · exact .inr ⟨fingerprint, summary, profile, hcheck, hmem, maximumPasses_fits _ _ hle⟩
  · rintro rfl
    exact avoids_polling _ _ he
  · rintro clock horizon hclock hrounds rfl
    exact avoids_observeAuthor hclock hrounds _ _ he

def sampleDigest : String := "aaaaaaaaaaaaaaaaaaaaaaaaaaaaaaaaaaaaaaaaaaaaaaaaaaaaaaaaaaaaaaaa"

def sampleItemDigest : String := "450c9c2179e0a98db872d89469fe965dea918ab58d797bc176802981d342e3cf"

def sampleService : ObservationService where
  limits :=
    { timeout := 60
      pollInterval := 2
      maxPages := 64
      maxRows := 8192
      maxResponseBytes := 16777216
      timeout_bounds := by decide +kernel
      interval_bounds := by decide +kernel
      positive := by decide
      capped := by decide }
  digestOf := fun texts =>
    if texts = [sampleDigest, sampleDigest, sampleDigest, "item"] then sampleItemDigest
    else String.join texts

def samplePublication : PublicationTarget where
  providerKey := "Tmdb"
  providerValue := "7"
  serverPath := "/media/author"
  authorId := "author"
  publicationJobId := "job"
  platform := .bili
  authorRelativeDirectory := "author"
  serverPathStyle := .posix
  publicationFingerprint := sampleDigest
  selectorFingerprint := sampleDigest
  managedFileCount := 1

/-- A lookup of the sample: the first finds nothing. -/
def sampleResult (lookups : Nat) : ItemLookupResult where
  lookupState := if lookups = 0 then .notFound else .matched
  inspectedItemCount := if lookups = 0 then 0 else 1
  pageCount := 1
  responseByteCount := 100
  itemIdSetFingerprint := sampleDigest
  itemId := if lookups = 0 then none else some "item"
  etag := none

structure SampleState where
  ticks : Nat
  lookups : Nat
  deriving DecidableEq

/-- The item is there after the refresh. A lookup takes a tick, a wait some more. The server asks
for a cancellation first, and is told `told`. -/
def samplePerform (reading : Nat → Float) (stamp : Nat → Int) (waits : Nat) (told : Bool) :
    Program.Performs ObservationCall ObservationCall.Reply SampleState
  | .profileFingerprint, s => (.ok (some sampleDigest), s)
  | .safeSummary, s => (.ok (some ⟨true, some sampleDigest, some .emby, some sampleDigest⟩), s)
  | .phase _, s => (.ok false, s)
  | .checkpoint _ _, s => (.ok false, s)
  | .progress _, s => (.ok false, s)
  | .cancelRequested reader, s => (.ok (reader = .server && told), s)
  | .isSet _, s => (.ok false, s)
  | .wait _, s => (.ok false, { s with ticks := s.ticks + waits })
  | .monotonic, s => (.ok (some (reading s.ticks)), s)
  | .clock, s => (.ok (some (stamp s.ticks)), s)
  | .resolve _ _, s => (.ok (some samplePublication), s)
  | .lookupItem _ _, s => (.ok (some (sampleResult s.lookups)), ⟨s.ticks + 1, s.lookups + 1⟩)
  | .scan given, s =>
    match given with
    | .started => (.ok .polls, s)
    | .polled _ => (.ok .enters, s)
    | .entered _ => (.ok (.ends (.ok (some ⟨.emby, "4.8", sampleDigest, true⟩))), s)

def sampleOutcome (acceptedAt observedAt : Int) : ObservationPayload :=
  observedPayload (acceptedPayload samplePublication ⟨.emby, "4.8", sampleDigest, true⟩ sampleDigest
    acceptedAt) sampleItemDigest observedAt

/-- Two ticks are a second; the clock is read for a minute. -/
def sampleReading (ticks : Nat) : Float := Float.ofNat (min ticks 120) / 2

/-- The machine of the sample. -/
abbrev sampleAnswers : Answers ObservationCall ObservationCall.Reply SampleState :=
  fun c s r t => samplePerform sampleReading (fun ticks => ticks * 500000) 4 false c s = (r, t)

theorem sampleAnswers_clocked :
    Clocked sampleAnswers SampleState.ticks (sampleReading 0 + sampleService.limits.timeout) 120 where
  forward := by
    intro c s r t hans
    have ht : t = (samplePerform sampleReading (fun ticks => ticks * 500000) 4 false c s).2 := by
      rw [hans]
    rw [ht]
    cases c with
    | wait timeout => exact Nat.le_add_right _ _
    | lookupItem target deadline => exact Nat.le_succ _
    | scan given =>
      cases given with
      | started | polled | entered => exact Nat.le_refl _
    | _ => exact Nat.le_refl _
  late := by
    rintro s t now hans hticks
    cases hans
    rw [sampleReading, sampleReading, Nat.min_eq_right hticks]
    decide +kernel
  waited := by
    rintro aim now s t - hans
    cases hans
    exact Nat.lt_add_of_pos_right (by decide)

/-- Emby finds nothing, is refreshed, and finds the item in two lookups in a row. -/
theorem observation_sound_and_bounded_sample :
    ∃ h, Executes sampleAnswers (sampleService.observeAuthor samplePublication 3 121) ⟨0, 0⟩ h
        (.ok (.success (sampleOutcome 500000 5500000))) ⟨11, 3⟩ ∧
      h.countP (fun e => e.call.isLookup) = 3 ∧
      Observed sampleService samplePublication (sampleOutcome 500000 5500000) h ∧
      (.ok (.success (sampleOutcome 500000 5500000)) : Except Halt Outcome) ≠ .error .waiting := by
  have hperform : ∀ c s, sampleAnswers c s
      (samplePerform sampleReading (fun ticks => ticks * 500000) 4 false c s).1
      (samplePerform sampleReading (fun ticks => ticks * 500000) 4 false c s).2 := fun _ _ => rfl
  have hrun := executes_run hperform (sampleService.observeAuthor samplePublication 3 121) ⟨0, 0⟩
  rw [show run (samplePerform sampleReading (fun ticks => ticks * 500000) 4 false)
    (sampleService.observeAuthor samplePublication 3 121) ⟨0, 0⟩ =
    (.ok (.success (sampleOutcome 500000 5500000)), ⟨11, 3⟩) from by decide +kernel] at hrun
  have hall := observation_sound_and_bounded hrun
  refine ⟨_, hrun, by decide +kernel, (hall.1 _ rfl).1,
    hall.2.2.2.2 SampleState.ticks 120 (fun started u hans => ?_) (by decide)⟩
  cases hans
  exact sampleAnswers_clocked

/-- The number that a finite double stands for, in units of `2⁻¹⁰⁷⁴`. -/
def exactUnits (x : Float) : Int :=
  match x.toModel.unpack with
  | .finite sign mantissa exponent _ => sign.apply (mantissa <<< (exponent + 1074).toNat)
  | _ => 0

/-- A reading of the clock, or what a lookup found. -/
def mark : ObservationEvent → Option (Float ⊕ LookupState)
  | ⟨.monotonic, .ok (some now)⟩ => some (.inl now)
  | ⟨.lookupItem _ _, .ok (some result)⟩ => some (.inr result.lookupState)
  | _ => none

/-- The clock of a run whose lookups and waits take a tick. -/
def hastyReading : Nat → Float
  | 0 => 0
  | 1 => 0
  | 2 => 2
  | 3 => 2.1
  | 4 => 4.1
  | _ => 4.2

abbrev hastyAnswers : Answers ObservationCall ObservationCall.Reply SampleState :=
  fun c s r t => samplePerform hastyReading (fun ticks => ticks * 1000000) 1 true c s = (r, t)

/-- The sum of the first sighting's reading and the interval is rounded down, so that the second
lookup begins less than the interval later; and the server was told of a cancellation. -/
theorem sightings_closer_than_interval :
    ∃ h, Executes hastyAnswers (sampleService.observeAuthor samplePublication 3 9) ⟨0, 0⟩ h
        (.ok (.success (sampleOutcome 1000000 5000000))) ⟨5, 3⟩ ∧
      h.filterMap mark = [.inl 0, .inl 0, .inl 0, .inr .notFound, .inl 0, .inl 0, .inl 0, .inl 0,
        .inl 0, .inl 0, .inl 2, .inr .matched, .inl 2.1, .inl 2.1, .inl 4.1, .inr .matched, .inl 4.2,
        .inl 4.2] ∧
      exactUnits 4.1 - exactUnits 2.1 < exactUnits sampleService.limits.pollInterval ∧
      (h.any fun e => cancelReading e = some true) = true := by
  have hperform : ∀ c s, hastyAnswers c s
      (samplePerform hastyReading (fun ticks => ticks * 1000000) 1 true c s).1
      (samplePerform hastyReading (fun ticks => ticks * 1000000) 1 true c s).2 := fun _ _ => rfl
  have hrun := executes_run hperform (sampleService.observeAuthor samplePublication 3 9) ⟨0, 0⟩
  rw [show run (samplePerform hastyReading (fun ticks => ticks * 1000000) 1 true)
    (sampleService.observeAuthor samplePublication 3 9) ⟨0, 0⟩ =
    (.ok (.success (sampleOutcome 1000000 5000000)), ⟨5, 3⟩) from by decide +kernel] at hrun
  exact ⟨_, hrun, by decide +kernel, by decide +kernel, by decide +kernel⟩

end MediaSync.MediaServer
