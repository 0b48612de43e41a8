import MediaSync.Foundation.JsonParse
import MediaSync.Media.LocatorReads
import MediaSync.Media.SafeHttp

/-!
# Reading a locator again

A persisted locator is reloaded by the function that wrote it, and its URL is
read once more by every network hop. Each gives the URL back exactly where the
host is settled and the parts fit into the length that all of them allow.
-/

namespace MediaSync.Network

open Python
open JsonText (Text Doc JsonReader)
open Posix (splitBy)
open Transaction (except_bind_ok)
open Checks
open Urls

section Functions

variable {tables : Tables} {raw u : Text} {p : UrlParts} {s : SplitResult}

/-- The characters that the parts take in a URL. -/
def UrlParts.size (p : UrlParts) : Nat :=
  p.scheme.length + 3 + (authority p.host (writtenPort p.scheme p.port)).length + p.path.length +
    (queryPart p.query).length

theorem canonicalRuntimeUrl_ok {limit : Nat} : canonicalRuntimeUrl tables limit raw = .ok u ↔
    isStripped raw = true ∧ raw.length ≤ limit ∧ (∀ c ∈ raw, isControl c = false) ∧
      (∀ c ∈ raw, c ≠ '\\' ∧ c ≠ '#') ∧
      ∃ s p, Reads tables (fun _ => false) raw s p ∧ p.url = u := by
  constructor
  · intro h
    obtain ⟨_, hstripped, h⟩ := except_bind_ok h
    obtain ⟨_, hcontrol, h⟩ := except_bind_ok h
    obtain ⟨_, hmarks, h⟩ := except_bind_ok h
    obtain ⟨p, hparts, h⟩ := except_bind_ok h
    obtain ⟨s, hreads⟩ := readParts_ok.1 hparts
    have hfit := Bool.and_eq_true_iff.1 (require_ok.1 hstripped)
    have hplain := require_ok.1 hcontrol
    rw [Bool.not_eq_true', List.any_eq_false] at hplain
    refine ⟨hfit.1, of_decide_eq_true hfit.2, fun c hc => Bool.eq_false_iff.2 (hplain c hc),
      fun c hc => ?_, s, p, hreads, Except.ok.inj h⟩
    have hmark := List.all_eq_true.1 (require_ok.1 hmarks) c hc
    simp only [Bool.and_eq_true, bne_iff_ne] at hmark
    exact hmark
  · rintro ⟨hstripped, hlength, hcontrol, hmarks, s, p, hreads, rfl⟩
    have hplain : (!raw.any isControl) = true := by
      rw [Bool.not_eq_true', List.any_eq_false]
      exact fun c hc => Bool.eq_false_iff.1 (hcontrol c hc)
    have hall : (raw.all fun c => c != '\\' && c != '#') = true := by
      rw [List.all_eq_true]
      intro c hc
      simp only [Bool.and_eq_true, bne_iff_ne]
      exact hmarks c hc
    unfold canonicalRuntimeUrl
    rw [require_true (Bool.and_eq_true_iff.2 ⟨hstripped, decide_eq_true hlength⟩),
      require_true hplain, require_true hall, readParts_ok.2 ⟨s, hreads⟩]
    rfl

/-! ## What is read again -/

theorem Reads.unique {forbids forbids' : SplitResult → Bool} {s' : SplitResult} {p' : UrlParts}
    (h : Reads tables forbids raw s p) (h' : Reads tables forbids' raw s' p') :
    s = s' ∧ p = p' := by
  have hs : s = s' := Option.some.inj (h.split.symm.trans h'.split)
  subst hs
  obtain ⟨hostname, hhostname, hhost⟩ := h.host
  obtain ⟨hostname', hhostname', hhost'⟩ := h'.host
  have hname : hostname = hostname' := Option.some.inj (hhostname.symm.trans hhostname')
  subst hname
  have hhosts : p.host = p'.host := Option.some.inj (hhost.symm.trans hhost')
  have hports : p.port = p'.port := Option.some.inj (h.port.symm.trans h'.port)
  have hschemes := h.scheme.trans h'.scheme.symm
  have hpaths := h.path.trans h'.path.symm
  have hqueries := h.query.trans h'.query.symm
  cases p
  cases p'
  simp only at hhosts hports hschemes hpaths hqueries
  subst hhosts hports hschemes hpaths hqueries
  exact ⟨rfl, rfl⟩

/-- What holds of the parts that a URL is cut into, once its host is encoded. -/
def OfParts (tables : Tables) (raw : Text) (P : UrlParts → Prop) : Prop :=
  ∀ s hostname encoded port, urlsplit tables raw = some s → s.hostname tables = some hostname →
    idnaEncode tables (rstripDots hostname) = some encoded → s.port = some port →
      P ⟨lower tables s.scheme, encoded.map Char.toLower, port,
        if s.path = [] then ['/'] else s.path, s.query⟩

/-- The host is settled and the parts fit. -/
def SettledUrl (tables : Tables) (raw : Text) : Prop :=
  OfParts tables raw fun p => Settled tables p.host ∧ p.size ≤ maxUrlChars

theorem Reads.ofParts {forbids : SplitResult → Bool} (h : Reads tables forbids raw s p)
    {P : UrlParts → Prop} : OfParts tables raw P ↔ P p := by
  obtain ⟨hostname, hhostname, hhost⟩ := h.host
  obtain ⟨encoded, hencoded, hchecked⟩ := Option.bind_eq_some_iff.1 hhost
  have hp : p = ⟨lower tables s.scheme, encoded.map Char.toLower, p.port,
      if s.path = [] then ['/'] else s.path, s.query⟩ := by
    have hlower : p.host = encoded.map Char.toLower := by
      split at hchecked
      · exact (Option.some.inj hchecked).symm
      · cases hchecked
    rw [← h.scheme, ← hlower, ← h.path, ← h.query]
  constructor
  · intro hall
    rw [hp]
    exact hall s hostname encoded p.port h.split hhostname hencoded h.port
  · intro hP s' hostname' encoded' port' hsplit hhostname' hencoded' hport
    have hs := Option.some.inj (h.split.symm.trans hsplit)
    subst hs
    have hname := Option.some.inj (hhostname.symm.trans hhostname')
    subst hname
    have hencodings := Option.some.inj (hencoded.symm.trans hencoded')
    subst hencodings
    have hports := Option.some.inj (h.port.symm.trans hport)
    subst hports
    exact hp ▸ hP

/-- The backend connects to the host of a target whose host is settled. -/
theorem Reads.pinned {forbids : SplitResult → Bool} (h : Reads tables forbids raw s p)
    (hs : Settled tables p.host) {limit : Nat}
    (hruntime : canonicalRuntimeUrl tables limit p.url = .ok p.url) {resolver : AddressResolver}
    {target : ValidatedTarget} (htarget : validateTarget tables resolver limit p.url = .ok target) :
    target.url = p.url ∧ backendAccepts tables target target.hostname target.port = true := by
  obtain ⟨_, hcanonical, htarget⟩ := except_bind_ok htarget
  cases hruntime.symm.trans hcanonical
  obtain ⟨parsed, hparsed, htarget⟩ := except_bind_ok htarget
  obtain ⟨hostname, hhostname, htarget⟩ := except_bind_ok htarget
  obtain ⟨port, -, htarget⟩ := except_bind_ok htarget
  obtain ⟨_, -, htarget⟩ := except_bind_ok htarget
  obtain ⟨_, -, htarget⟩ := except_bind_ok htarget
  cases htarget
  have hreads : Reads tables (fun _ => false) p.url p.split p.reread :=
    h.written.reads hs rfl h.nonzero
  have hsplit : parsed = p.split := Option.some.inj ((orFail_ok.1 hparsed).symm.trans hreads.split)
  have hname : hostname = p.host := by
    have hagain := orFail_ok.1 hhostname
    rw [hsplit, hs.hostname_eq rfl] at hagain
    exact (Option.some.inj hagain).symm
  refine ⟨rfl, ?_⟩
  simp only [backendAccepts, hname, rstripDots_eq hs.noDot, lower, hs.ascii, if_true,
    hs.map_toLower, decide_true, Bool.and_self]

end Functions

/-! ## What is parsed again -/

section Locators

variable {tables : Tables} {reader : JsonReader} {fields : List (String × Json)}
  {value : LocatorValue} {locator : AssetLocator}

/-- Where a value is a direct locator, its URL is settled. -/
def LocatorValue.Settled (tables : Tables) (reader : JsonReader) (value : LocatorValue) : Prop :=
  ∀ fields, value.fields reader = some fields →
    Json.asStr? (Json.get? fields "type") = some "direct" →
      SettledUrl tables (textField fields "url")

/-- The tables as they answer for ASCII names and for the full stops of the codec. -/
def plainTables : Tables := ⟨id, id, id, fun _ => none, fun _ => none⟩

end Locators

end MediaSync.Network
