import MediaSync.Foundation.Transaction
import MediaSync.Media.Locator

/-!
# The parts of a URL in its one spelling

A URL in its one spelling is read by the functions that wrote it. They find the
parts they wrote exactly where the host is settled, that is, where it is its own
spelling and is found again between the slashes.

A host need not be. The dots at its end are stripped before it is encoded, and
the codec knows other dots than these.
-/

namespace MediaSync.Network

open Python
open JsonText (Text Doc JsonReader number)
open Posix (splitBy)
open Transaction (except_bind_ok)
open Checks
open Urls

section Hosts

variable {tables : Tables} {hostname host : Text}

theorem toLower_ascii {c : Char} (h : isAscii c = true) :
    isAscii c.toLower = true ∧ c.toLower.toLower = c.toLower ∧ (c.toLower = '%' → c = '%') ∧
      (c.toLower = '.' → c = '.') :=
  of_isAscii (P := fun c => isAscii c.toLower = true ∧ c.toLower.toLower = c.toLower ∧
    (c.toLower = '%' → c = '%') ∧ (c.toLower = '.' → c = '.')) (by decide) h

/-- What a spelling is made of. -/
theorem canonicalHost_chars (h : canonicalHost tables hostname = some host) :
    host ≠ [] ∧ ∀ c ∈ host, isAscii c = true ∧ c.toLower = c ∧ c ≠ '%' := by
  unfold canonicalHost at h
  obtain ⟨encoded, -, hencoded⟩ := Option.bind_eq_some_iff.1 h
  split at hencoded
  · rename_i hchecks
    obtain ⟨hascii, hne, hpercent⟩ := hchecks
    cases hencoded
    refine ⟨mt List.map_eq_nil_iff.1 hne, fun c hc => ?_⟩
    obtain ⟨d, hd, rfl⟩ := List.mem_map.1 hc
    obtain ⟨hlow, hidem, hsign, -⟩ := toLower_ascii (List.all_eq_true.1 hascii d hd)
    exact ⟨hlow, hidem, fun heq => hpercent (hsign heq ▸ hd)⟩
  · cases hencoded

/-- An ASCII name is spelled as it is, without the dots at its end. -/
theorem canonicalHost_ascii (hascii : ∀ c ∈ hostname, isAscii c = true ∧ c.toLower = c)
    (h : canonicalHost tables hostname = some host) :
    host = rstripDots hostname ∧ labelsFit (splitBy (fun c => c = '.') host) = true := by
  have hstart : rstripDots hostname <+: hostname := List.rdropWhile_prefix _ _
  have hall : (rstripDots hostname).all isAscii = true :=
    List.all_eq_true.2 fun c hc => (hascii c (hstart.mem hc)).1
  have hlower : (rstripDots hostname).map Char.toLower = rstripDots hostname := by
    rw [List.map_congr_left, List.map_id]
    intro c hc
    rw [id_eq]
    exact (hascii c (hstart.mem hc)).2
  unfold canonicalHost at h
  obtain ⟨encoded, hidna, hencoded⟩ := Option.bind_eq_some_iff.1 h
  unfold idnaEncode at hidna
  rw [if_pos hall] at hidna
  split at hencoded
  · rename_i hchecks
    cases hencoded
    split at hidna
    · rename_i hfit
      cases hidna
      rcases hfit with hnil | hfit
      · exact absurd hnil hchecks.2.1
      · rw [hlower]
        exact ⟨rfl, hfit⟩
    · cases hidna
  · cases hencoded

theorem rstripDots_eq (h : hostname.getLast? ≠ some '.') : rstripDots hostname = hostname := by
  rw [rstripDots, List.rdropWhile_eq_self_iff]
  intro hne
  rw [decide_eq_true_eq]
  intro heq
  exact h (by rw [List.getLast?_eq_some_getLast hne, heq])

theorem rstripDots_getLast (hostname : Text) : (rstripDots hostname).getLast? ≠ some '.' := by
  intro h
  have hne : rstripDots hostname ≠ [] := by
    rintro heq
    rw [heq] at h
    cases h
  have hlast := List.rdropWhile_last_not (fun c => c = '.') hostname hne
  rw [List.getLast?_eq_some_getLast hne, Option.some.injEq] at h
  exact hlast (decide_eq_true h)

/-- A host that is its own spelling and is read back from a URL. -/
structure Settled (tables : Tables) (host : Text) : Prop extends HostText tables host where
  noDot : host.getLast? ≠ some '.'
  labels : labelsFit (splitBy (fun c => c = '.') host) = true

theorem Settled.canonicalHost_eq (h : Settled tables host) :
    canonicalHost tables host = some host := by
  have hpercent : '%' ∉ host := h.notMem (by decide)
  unfold canonicalHost
  rw [rstripDots_eq h.noDot, idnaEncode, if_pos h.ascii, if_pos (.inr h.labels), Option.bind_some,
    if_pos ⟨h.ascii, h.nonempty, hpercent⟩, h.map_toLower]

end Hosts

/-! ## The parts that are read -/

section Parts

variable {tables : Tables} {invalid forbidden : NetworkError} {forbids : SplitResult → Bool}
  {raw u : Text} {s : SplitResult} {p : UrlParts}

/-- The parts come from that split. -/
structure Reads (tables : Tables) (forbids : SplitResult → Bool) (raw : Text) (s : SplitResult)
    (p : UrlParts) : Prop where
  split : urlsplit tables raw = some s
  port : s.port = some p.port
  host : ∃ hostname, s.hostname tables = some hostname ∧
    canonicalHost tables hostname = some p.host
  scheme : p.scheme = lower tables s.scheme
  known : p.scheme ∈ httpSchemes
  userinfo : s.hasUserinfo = false
  fragment : s.fragment = []
  allowed : forbids s = false
  nonzero : p.port ≠ some 0
  path : p.path = if s.path = [] then ['/'] else s.path
  query : p.query = s.query

theorem readParts_ok : readParts tables invalid forbidden forbids raw = .ok p ↔
    ∃ s, Reads tables forbids raw s p := by
  constructor
  · intro h
    obtain ⟨s, hsplit, h⟩ := except_bind_ok h
    obtain ⟨port, hport, h⟩ := except_bind_ok h
    obtain ⟨hostname, hhostname, h⟩ := except_bind_ok h
    obtain ⟨_, hknown, h⟩ := except_bind_ok h
    obtain ⟨_, hallowed, h⟩ := except_bind_ok h
    obtain ⟨_, hnonzero, h⟩ := except_bind_ok h
    obtain ⟨host, hhost, h⟩ := except_bind_ok h
    have hchecks := require_ok.1 hallowed
    simp only [Bool.and_eq_true, Bool.not_eq_true', decide_eq_true_eq] at hchecks
    cases h
    exact ⟨s, orFail_ok.1 hsplit, orFail_ok.1 hport,
      ⟨hostname, orFail_ok.1 hhostname, orFail_ok.1 hhost⟩, rfl,
      of_decide_eq_true (require_ok.1 hknown), hchecks.1.1, hchecks.1.2, hchecks.2,
      bne_iff_ne.1 (require_ok.1 hnonzero), rfl, rfl⟩
  · rintro ⟨s, h⟩
    obtain ⟨hostname, hhostname, hhost⟩ := h.host
    have hchecks : (!s.hasUserinfo && decide (s.fragment = []) && !forbids s) = true := by
      rw [h.userinfo, h.fragment, h.allowed]
      rfl
    have hknown : decide (lower tables s.scheme ∈ httpSchemes) = true :=
      decide_eq_true (h.scheme ▸ h.known)
    obtain ⟨scheme, host, port, path, query⟩ := p
    unfold readParts
    rw [orFail_some h.split, orFail_some h.port, orFail_some hhostname]
    dsimp only
    rw [require_true hknown, require_true hchecks, require_true (bne_iff_ne.2 h.nonzero),
      orFail_some hhost]
    have hscheme := h.scheme
    have hpath := h.path
    have hquery := h.query
    simp only at hscheme hpath hquery
    rw [hscheme, hpath, hquery]
    rfl

/-- Parts as they can stand in a URL. -/
structure UrlParts.Written (p : UrlParts) : Prop where
  known : p.scheme = "http".toList ∨ p.scheme = "https".toList
  host : p.host ≠ [] ∧ ∀ c ∈ p.host, isAscii c = true ∧ c.toLower = c ∧ c ≠ '%'
  port : ∀ n ∈ p.port, n ≤ 65535
  head : p.path.head? = some '/'
  path : ∀ c ∈ p.path, c ≠ '?' ∧ c ≠ '#'
  query : '#' ∉ p.query
  kept : ∀ c ∈ p.path ++ p.query, isRemoved c = false

theorem port_le {n : Nat} (h : s.port = some (some n)) : n ≤ 65535 := by
  unfold SplitResult.port at h
  dsimp only at h
  split at h
  · cases h
  · split at h
    · rename_i hport
      cases h
      exact hport.2
    · cases h

theorem Reads.written (h : Reads tables forbids raw s p) : p.Written := by
  have hcut := wellCut_of_urlsplit h.split
  obtain ⟨hostname, hhostname, hhost⟩ := h.host
  have hslash : ∀ c ∈ p.path, c = '/' ∨ c ∈ s.path := by
    intro c hc
    rw [h.path] at hc
    split at hc
    · exact .inl (List.mem_singleton.1 hc)
    · exact .inr hc
  refine ⟨?_, canonicalHost_chars hhost, fun n hn => ?_, ?_, fun c hc => ?_, ?_, fun c hc => ?_⟩
  · rcases List.mem_cons.1 h.known with hknown | hknown
    · exact .inl hknown
    · exact .inr (List.mem_singleton.1 hknown)
  · exact port_le (by rw [h.port, Option.mem_def.1 hn])
  · rw [h.path]
    split
    · rfl
    · rename_i hne
      exact (hcut.rooted (netloc_ne_nil hhostname)).resolve_left hne
  · rcases hslash c hc with rfl | hc
    · exact ⟨by decide, by decide⟩
    · exact hcut.path c hc
  · rw [h.query]
    exact hcut.query
  · rcases List.mem_append.1 hc with hc | hc
    · rcases hslash c hc with rfl | hc
      · rfl
      · exact (hcut.chars c (List.mem_append_left _ (List.mem_append_right _ hc))).2
    · rw [h.query] at hc
      exact (hcut.chars c (List.mem_append_right _ hc)).2

theorem writtenPort_idem (scheme : Text) (port : Option Nat) :
    writtenPort scheme (writtenPort scheme port) = writtenPort scheme port := by
  unfold writtenPort
  by_cases h : port = some (defaultPort scheme)
  · rw [if_pos h]
    rfl
  · rw [if_neg h, if_neg h]

theorem writtenPort_le {scheme : Text} {port : Option Nat} (h : ∀ n ∈ port, n ≤ 65535) :
    ∀ n ∈ writtenPort scheme port, n ≤ 65535 := by
  unfold writtenPort
  split
  · exact fun n hn => by cases hn
  · exact h

theorem lower_scheme (h : p.Written) : lower tables p.scheme = p.scheme := by
  rcases h.known with hscheme | hscheme
  · rw [hscheme]
    rfl
  · rw [hscheme]
    rfl

/-- The parts with the port as it was written. -/
def UrlParts.reread (p : UrlParts) : UrlParts := { p with port := writtenPort p.scheme p.port }

@[simp] theorem UrlParts.reread_url (p : UrlParts) : p.reread.url = p.url := by
  simp only [UrlParts.url, UrlParts.reread, writtenPort_idem]

/-- What a split of the URL finds. -/
def UrlParts.split (p : UrlParts) : SplitResult :=
  ⟨p.scheme, authority p.host (writtenPort p.scheme p.port), p.path, p.query, []⟩

/-- A URL with a settled host is read as its parts. -/
theorem UrlParts.Written.reads (hp : p.Written) (hs : Settled tables p.host)
    (hallowed : forbids p.split = false) (hnonzero : p.port ≠ some 0) :
    Reads tables forbids p.url p.split p.reread := by
  have hport : ∀ n ∈ writtenPort p.scheme p.port, n ≤ 65535 := writtenPort_le hp.port
  have hchar : ∀ c ∈ authority p.host (writtenPort p.scheme p.port),
      isDelimiter c = false ∧ isRemoved c = false := by
    intro c hc
    have hdelimiter : ∀ d : Char, isHostChar d = false → d ≠ ']' → c ≠ d :=
      fun d hd hbracket hcd => hs.notMem_authority hd hbracket (hcd ▸ hc)
    have hne : ∀ d ∈ ['/', '?', '#', '\t', '\r', '\n'], c ≠ d := fun d hd =>
      have hall : ['/', '?', '#', '\t', '\r', '\n'].all
          (fun d => isHostChar d = false ∧ d ≠ ']') = true := by decide
      have hd' := of_decide_eq_true (List.all_eq_true.1 hall d hd)
      hdelimiter d hd'.1 hd'.2
    simp only [List.forall_mem_cons] at hne
    obtain ⟨hslash, hmark, hnumber, htab, hreturn, hfeed, -⟩ := hne
    exact ⟨by simp [isDelimiter, hslash, hmark, hnumber], by simp [isRemoved, htab, hreturn, hfeed]⟩
  have hsplit : urlsplit tables p.url = some p.split := by
    have hascii : ∀ c ∈ authority p.host (writtenPort p.scheme p.port), isAscii c = true := by
      intro c hc
      rcases mem_authority hc with hc | rfl | rfl | hc
      · exact (hp.host.2 c hc).1
      · rfl
      · rfl
      · rcases mem_portPart hc with rfl | hdigit
        · rfl
        · have hchars := (isHostChar_digit hdigit).1
          simp only [isHostChar, Bool.and_eq_true] at hchars
          exact hchars.1.1.1.1.1.1.1
    unfold UrlParts.url
    rw [urlsplit_urlunsplit hp.known (fun c hc => (hchar c hc).1) hp.head hp.path hp.query,
      hs.checkBrackets, checkNetloc_ascii hascii]
    · rfl
    · intro c hc
      rw [List.append_assoc] at hc
      rcases List.mem_append.1 hc with hc | hc
      · exact (hchar c hc).2
      · exact hp.kept c hc
  have huser : p.split.hasUserinfo = false :=
    decide_eq_false (hs.notMem_authority (by decide) (by decide))
  have hzero : writtenPort p.scheme p.port ≠ some 0 := by
    unfold writtenPort
    split
    · exact fun h => by cases h
    · exact hnonzero
  refine ⟨hsplit, hs.port_eq rfl hport, ⟨p.host, hs.hostname_eq rfl, hs.canonicalHost_eq⟩,
    (lower_scheme hp).symm, ?_, huser, rfl, hallowed, hzero, ?_, rfl⟩
  · rcases hp.known with hknown | hknown
    · exact hknown ▸ List.mem_cons_self
    · exact hknown ▸ List.mem_cons_of_mem _ List.mem_cons_self
  · have hne : p.path ≠ [] := by
      intro hnil
      have hhead := hp.head
      rw [hnil] at hhead
      cases hhead
    show p.path = if p.path = [] then ['/'] else p.path
    rw [if_neg hne]

/-! ## Hosts that are not settled -/

/-- What the check of an authority is for: neither the lower case of a name nor the ASCII form of
one of its labels has a character that divides a URL, unless it was there. -/
structure Guarded (tables : Tables) : Prop where
  lower : ∀ t c, c ∈ tables.lower t → isReserved c = true → c ∈ t
  labels : ∀ url s hostname label ascii, urlsplit tables url = some s →
    s.hostname tables = some hostname → label <:+: hostname → tables.prepare label = some ascii →
    ∀ c ∈ ascii, isReserved c = true → c ∈ label

theorem mem_lower (hg : Guarded tables) {t : Text} {c : Char} (h : c ∈ lower tables t)
    (hc : isReserved c = true) : c ∈ t := by
  unfold lower at h
  split at h
  · rename_i hascii
    obtain ⟨d, hd, rfl⟩ := List.mem_map.1 h
    have hsame : isReserved d.toLower = true → d.toLower = d :=
      of_isAscii (P := fun d => isReserved d.toLower = true → d.toLower = d) (by decide)
        (List.all_eq_true.1 hascii d hd)
    rw [hsame hc]
    exact hd
  · exact hg.lower t c h hc

theorem mem_hostname (hg : Guarded tables) {hostname : Text} {c : Char}
    (h : s.hostname tables = some hostname) (hmem : c ∈ hostname) (hc : isReserved c = true) :
    c ∈ s.netloc := by
  unfold SplitResult.hostname at h
  dsimp only at h
  split at h
  · cases h
  · cases h
    rcases List.mem_append.1 hmem with hmem | hmem
    · exact mem_hostinfo (mem_before (mem_lower hg hmem hc)).1
    · exact mem_hostinfo ((List.dropWhile_suffix _).mem hmem)

theorem exists_of_mapM {α β : Type} {f : α → Option β} {as : List α} {bs : List β} {b : β}
    (h : as.mapM f = some bs) (hb : b ∈ bs) : ∃ a ∈ as, f a = some b := by
  induction as generalizing bs with
  | nil =>
    rw [List.mapM_nil] at h
    cases h
    cases hb
  | cons a as ih =>
    rw [List.mapM_cons] at h
    obtain ⟨first, hfirst, h⟩ := Option.bind_eq_some_iff.1 h
    obtain ⟨rest, hrest, h⟩ := Option.bind_eq_some_iff.1 h
    cases h
    rcases List.mem_cons.1 hb with rfl | hb
    · exact ⟨a, List.mem_cons_self, hfirst⟩
    · obtain ⟨c, hc, hfc⟩ := ih hrest hb
      exact ⟨c, List.mem_cons_of_mem a hc, hfc⟩

theorem mem_joinLabels {labels : List Text} {c : Char} (h : c ∈ joinLabels labels) :
    c = '.' ∨ ∃ label ∈ labels, c ∈ label := by
  unfold joinLabels at h
  induction labels with
  | nil => cases h
  | cons label rest ih =>
    cases rest with
    | nil =>
      rw [List.intercalate_singleton] at h
      exact .inr ⟨label, List.mem_cons_self, h⟩
    | cons next more =>
      rw [List.intercalate_cons_cons] at h
      simp only [List.mem_append, List.mem_singleton] at h
      rcases h with (h | h) | h
      · exact .inr ⟨label, List.mem_cons_self, h⟩
      · exact .inl h
      · rcases ih h with hdot | ⟨l, hl, hmem⟩
        · exact .inl hdot
        · exact .inr ⟨l, List.mem_cons_of_mem _ hl, hmem⟩

/-- Encoding a name gives it no character that divides a URL. -/
theorem mem_idnaEncode {hostname name encoded : Text} {c : Char} (hg : Guarded tables)
    (hsplit : urlsplit tables raw = some s) (hhost : s.hostname tables = some hostname)
    (hname : name <:+: hostname) (h : idnaEncode tables name = some encoded) (hmem : c ∈ encoded)
    (hc : isReserved c = true) : c ∈ name := by
  have hlabels : ∀ labels : List Text, (∀ label ∈ labels, label <:+: name) →
      ∀ ascii, labels.mapM (toAscii tables) = some ascii → c ∈ joinLabels ascii → c ∈ name := by
    intro labels hpiece ascii hascii hjoined
    rcases mem_joinLabels hjoined with rfl | ⟨t, ht, hct⟩
    · exact absurd hc (by decide)
    · obtain ⟨label, hlabel, htext⟩ := exists_of_mapM hascii ht
      unfold toAscii at htext
      obtain ⟨_, hprepared, hchecked⟩ := Option.bind_eq_some_iff.1 htext
      split at hchecked
      · cases hchecked
        split at hprepared
        · cases hprepared
          exact (hpiece _ hlabel).mem hct
        · exact (hpiece _ hlabel).mem (hg.labels raw s hostname label _ hsplit hhost
            ((hpiece _ hlabel).trans hname) hprepared c hct hc)
      · cases hchecked
  have hpieces := (Posix.splitBy_infix isDot name).1
  unfold idnaEncode at h
  split at h
  · split at h
    · cases h
      exact hmem
    · cases h
  · dsimp only at h
    split at h
    · obtain ⟨ascii, hascii, rfl⟩ := Option.map_eq_some_iff.1 h
      rcases List.mem_append.1 hmem with hmem | hmem
      · exact hlabels _ (fun label hlabel => hpieces label (List.mem_of_mem_dropLast hlabel)) ascii
          hascii hmem
      · rw [List.mem_singleton.1 hmem] at hc
        exact absurd hc (by decide)
    · obtain ⟨ascii, hascii, rfl⟩ := Option.map_eq_some_iff.1 h
      exact hlabels _ hpieces ascii hascii hmem

theorem Reads.host_reserved (hg : Guarded tables) (h : Reads tables forbids raw s p) {c : Char}
    (hmem : c ∈ p.host) (hc : isReserved c = true) : c ∈ s.netloc := by
  obtain ⟨hostname, hhostname, hhost⟩ := h.host
  unfold canonicalHost at hhost
  obtain ⟨encoded, hencoded, hchecked⟩ := Option.bind_eq_some_iff.1 hhost
  split at hchecked
  · rename_i hchecks
    rw [← Option.some.inj hchecked] at hmem
    obtain ⟨d, hd, rfl⟩ := List.mem_map.1 hmem
    have hsame : isReserved d.toLower = true → d.toLower = d :=
      of_isAscii (P := fun d => isReserved d.toLower = true → d.toLower = d) (by decide)
        (List.all_eq_true.1 hchecks.1 d hd)
    have hd' : d.toLower = d := hsame hc
    rw [hd'] at hc ⊢
    have hstart : rstripDots hostname <+: hostname := List.rdropWhile_prefix _ _
    exact mem_hostname hg hhostname
      (hstart.mem (mem_idnaEncode hg h.split hhostname hstart.isInfix hencoded hd hc)) hc
  · cases hchecked

theorem isRemoved_of_control {c : Char} (h : isControl c = false) : isRemoved c = false := by
  rw [Bool.eq_false_iff]
  intro hbad
  simp only [isRemoved, Bool.or_eq_true, decide_eq_true_eq] at hbad
  rcases hbad with (rfl | rfl) | rfl
  · exact absurd h (by decide)
  · exact absurd h (by decide)
  · exact absurd h (by decide)

/-- The characters that a host in its own spelling has for certain. -/
def isSpelled (c : Char) : Bool :=
  isAscii c && c.toLower == c && !isDelimiter c && c != '@' && c != '%' && c != '\\' && !isControl c

theorem isHostChar_iff (c : Char) : isHostChar c = true ↔ isSpelled c = true ∧ c ≠ ']' := by
  simp only [isHostChar, isSpelled, Bool.and_eq_true, bne_iff_ne, beq_iff_eq]
  tauto

theorem spelled_ascii {c : Char} (h : isSpelled c = true) : isAscii c = true ∧ c.toLower = c := by
  simp only [isSpelled, Bool.and_eq_true, beq_iff_eq] at h
  exact ⟨h.1.1.1.1.1.1, h.1.1.1.1.1.2⟩

variable {host : Text} {port : Option Nat}

theorem notMem_of_spelled (hchars : ∀ c ∈ host, isSpelled c = true) {c : Char}
    (hc : isSpelled c = false) : c ∉ host := fun hmem => by
  rw [hchars c hmem] at hc
  cases hc

/-- A name that is spelled so is found as it stands. -/
theorem hostname_of_spelled {hostname : Text} (hchars : ∀ c ∈ host, isSpelled c = true)
    (hinfo : (hostinfo s.netloc).1 = host) (h : s.hostname tables = some hostname) :
    hostname = host := by
  have hpercent : '%' ∉ host := notMem_of_spelled hchars (by decide)
  have hdrop : host.dropWhile (· != '%') = [] := by
    rw [List.dropWhile_eq_nil_iff]
    intro c hc
    rw [bne_iff_ne]
    exact fun hcp => hpercent (hcp ▸ hc)
  have hascii : host.all isAscii = true :=
    List.all_eq_true.2 fun c hc => (spelled_ascii (hchars c hc)).1
  have hlower : host.map Char.toLower = host := by
    rw [List.map_congr_left, List.map_id]
    exact fun c hc => (spelled_ascii (hchars c hc)).2
  unfold SplitResult.hostname at h
  rw [hinfo] at h
  dsimp only at h
  rw [before_of_notMem hpercent, hdrop, List.append_nil, lower, if_pos hascii, hlower] at h
  split at h
  · cases h
  · exact (Option.some.inj h).symm

theorem at_notMem_authority (hchars : ∀ c ∈ host, isSpelled c = true) :
    '@' ∉ authority host port := by
  intro hmem
  rcases mem_authority hmem with hmem | heq | heq | hmem
  · exact notMem_of_spelled hchars (by decide) hmem
  · exact absurd heq (by decide)
  · exact absurd heq (by decide)
  · exact notMem_portPart (by decide) (by decide) hmem

/-- A bracket inside a bracketed host leaves the port unreadable. -/
theorem close_notMem_bracketed (hchars : ∀ c ∈ host, isSpelled c = true) (hcolon : ':' ∈ host)
    (hbrackets : checkBrackets tables (authority host port) = true)
    (hs : s.netloc = authority host port) (hport : s.port ≠ none) : ']' ∉ host := by
  intro hclose
  have hat : '@' ∉ authority host port := at_notMem_authority hchars
  have hsplit := before_after hclose
  have hnotMem := notMem_before ']' host
  generalize before ']' host = b at hsplit hnotMem
  generalize after ']' host = y at hsplit
  have hauthority : authority host port = '[' :: (b ++ ']' :: (y ++ ']' :: portPart port)) := by
    rw [authority_cases, if_pos hcolon]
    conv_lhs => rw [hsplit]
    rw [List.append_assoc, List.cons_append]
  have hopen : '[' ∈ authority host port := hauthority ▸ List.mem_cons_self
  have hrest : after ']' (after '[' (authority host port)) = y ++ ']' :: portPart port := by
    rw [hauthority, after_cons, after_append hnotMem]
  unfold checkBrackets at hbrackets
  rw [if_pos (.inl hopen), Bool.and_eq_true, Bool.and_eq_true] at hbrackets
  have hnetloc := hbrackets.2
  simp only [checkBracketedNetloc] at hnetloc
  rw [afterLast_of_notMem hat, if_pos hopen, hrest] at hnetloc
  simp only [Bool.and_eq_true, Bool.or_eq_true, beq_iff_eq] at hnetloc
  have hhead : ∃ y', y = ':' :: y' := by
    rcases hnetloc.1.2 with hnil | hhead
    · exact absurd (List.append_eq_nil_iff.1 hnil).2 (List.cons_ne_nil _ _)
    · cases y with
      | nil => exact absurd (Option.some.inj hhead) (by decide)
      | cons c y' => exact ⟨y', by rw [Option.some.inj hhead]⟩
  obtain ⟨y', rfl⟩ := hhead
  apply hport
  unfold SplitResult.port hostinfo
  simp only [hs, afterLast_of_notMem hat, if_pos hopen, hrest, List.cons_append, after_cons]
  have hne : y' ++ ']' :: portPart port ≠ [] := List.append_ne_nil_of_right_ne_nil _
    (List.cons_ne_nil _ _)
  rw [if_neg hne, if_neg]
  rintro ⟨hdigits, -⟩
  have hbad := List.all_eq_true.1 hdigits ']'
    (List.mem_append_right _ List.mem_cons_self)
  exact absurd hbad (by decide)

/-- A host without a colon is what stands before the first one. -/
theorem before_authority (hcolon : ':' ∉ host) : before ':' (authority host port) = host := by
  rw [authority_cases, if_neg hcolon]
  cases port with
  | none => rw [portPart, Option.elim_none, List.append_nil, before_of_notMem hcolon]
  | some n => rw [portPart, Option.elim_some, before_append hcolon]

/-- A bracket in a host without a colon would be gone where the URL is read. -/
theorem open_notMem_plain (hchars : ∀ c ∈ host, isSpelled c = true) (hcolon : ':' ∉ host)
    (hbrackets : checkBrackets tables (authority host port) = true)
    (hs : s.netloc = authority host port) {hostname host' : Text} {port' : Option Nat}
    (hhostname : s.hostname tables = some hostname)
    (hhost : canonicalHost tables hostname = some host')
    (heq : authority host' port' = authority host port) : '[' ∉ host := by
  intro hopen
  have hat : '@' ∉ authority host port := at_notMem_authority hchars
  have hauthority : authority host port = host ++ portPart port := by
    rw [authority_cases, if_neg hcolon]
  have hmem : '[' ∈ authority host port := hauthority ▸ List.mem_append_left _ hopen
  unfold checkBrackets at hbrackets
  rw [if_pos (.inl hmem), Bool.and_eq_true, Bool.and_eq_true] at hbrackets
  have hclose : ']' ∈ authority host port := of_decide_eq_true hbrackets.1.2
  have hnetloc := hbrackets.2
  simp only [checkBracketedNetloc] at hnetloc
  rw [afterLast_of_notMem hat, if_pos hmem] at hnetloc
  simp only [Bool.and_eq_true, Bool.or_eq_true, beq_iff_eq] at hnetloc
  -- nothing stands before the bracket
  have hsplit := before_after hopen
  have hbefore : before '[' host = [] := by
    have hfirst := hnetloc.1.1
    rw [hauthority] at hfirst
    conv_lhs at hfirst => rw [hsplit]
    rw [List.append_assoc, List.cons_append, before_append (notMem_before _ _)] at hfirst
    exact hfirst
  rw [hbefore, List.nil_append] at hsplit
  generalize after '[' host = h₁ at hsplit
  have hclose₁ : ']' ∈ h₁ := by
    rw [hauthority] at hclose
    rcases List.mem_append.1 hclose with hclose | hclose
    · rw [hsplit] at hclose
      exact (List.mem_cons.1 hclose).resolve_left (by decide)
    · exact absurd hclose (notMem_portPart (by decide) (by decide))
  have hinner : (hostinfo s.netloc).1 = before ']' h₁ := by
    unfold hostinfo
    simp only [hs, afterLast_of_notMem hat, if_pos hmem]
    rw [hauthority, hsplit, List.cons_append, after_cons]
    conv_lhs => rw [before_after hclose₁]
    rw [List.append_assoc, List.cons_append, before_append (notMem_before _ _)]
  have hinner_mem : ∀ c ∈ before ']' h₁, isSpelled c = true ∧ c ≠ ':' := by
    intro c hc
    have hc' : c ∈ host := hsplit ▸ List.mem_cons_of_mem _ (mem_before hc).1
    exact ⟨hchars c hc', fun hcc => hcolon (hcc ▸ hc')⟩
  have hname : hostname = before ']' h₁ :=
    hostname_of_spelled (fun c hc => (hinner_mem c hc).1) hinner hhostname
  have hascii : ∀ c ∈ hostname, isAscii c = true ∧ c.toLower = c :=
    fun c hc => spelled_ascii (hinner_mem c (hname ▸ hc)).1
  have hhost' := (canonicalHost_ascii hascii hhost).1
  have hstart : host' <+: before ']' h₁ := by
    rw [hhost', ← hname]
    exact List.rdropWhile_prefix _ _
  have hcolon' : ':' ∉ host' := fun hc => (hinner_mem _ (hstart.mem hc)).2 rfl
  have hsame : host' = host := by
    have hcut := congrArg (before ':') heq
    rw [before_authority hcolon', before_authority hcolon] at hcut
    exact hcut
  have hlength : host'.length < host.length := by
    have hle := hstart.length_le
    have hlt : (before ']' h₁).length ≤ h₁.length := (List.takeWhile_prefix _).length_le
    rw [hsplit, List.length_cons]
    omega
  rw [hsame] at hlength
  exact absurd hlength (Nat.lt_irrefl _)

/-- Without a closing bracket, a host is text that is found again between the slashes. -/
theorem hostText_of_brackets (hchars : ∀ c ∈ host, isSpelled c = true) (hne : host ≠ [])
    (hclose : ']' ∉ host) (hbrackets : checkBrackets tables (authority host port) = true) :
    HostText tables host := by
  refine ⟨hne, fun c hc => (isHostChar_iff c).2 ⟨hchars c hc, fun h => hclose (h ▸ hc)⟩,
    fun hcolon => ?_, fun hcolon hopen => ?_⟩
  · have hopen : '[' ∈ authority host port := by
      rw [authority_cases, if_pos hcolon]
      exact List.mem_cons_self
    unfold checkBrackets at hbrackets
    rw [if_pos (.inl hopen), Bool.and_eq_true] at hbrackets
    have hnetloc := hbrackets.2
    simp only [checkBracketedNetloc] at hnetloc
    rw [afterLast_of_notMem (at_notMem_authority hchars), if_pos hopen, authority_cases,
      if_pos hcolon, after_cons, before_append hclose] at hnetloc
    exact (Bool.and_eq_true_iff.1 hnetloc).2
  · have hauthority : authority host port = host ++ portPart port := by
      rw [authority_cases, if_neg hcolon]
    have hmem : '[' ∈ authority host port := hauthority ▸ List.mem_append_left _ hopen
    unfold checkBrackets at hbrackets
    rw [if_pos (.inl hmem), Bool.and_eq_true, Bool.and_eq_true, hauthority] at hbrackets
    rcases List.mem_append.1 (of_decide_eq_true hbrackets.1.2) with hbad | hbad
    · exact hclose hbad
    · exact notMem_portPart (by decide) (by decide) hbad

theorem hostText_of_authority (hchars : ∀ c ∈ host, isSpelled c = true) (hne : host ≠ [])
    (hbrackets : checkBrackets tables (authority host port) = true)
    (hs : s.netloc = authority host port) (hport : s.port ≠ none) {hostname host' : Text}
    {port' : Option Nat} (hhostname : s.hostname tables = some hostname)
    (hhost : canonicalHost tables hostname = some host')
    (heq : authority host' port' = authority host port) : HostText tables host := by
  refine hostText_of_brackets hchars hne ?_ hbrackets
  by_cases hcolon : ':' ∈ host
  · exact close_notMem_bracketed hchars hcolon hbrackets hs hport
  · have hopen := open_notMem_plain hchars hcolon hbrackets hs hhostname hhost heq
    have hopen' : '[' ∉ authority host port := by
      rw [authority_cases, if_neg hcolon, List.mem_append, not_or]
      exact ⟨hopen, notMem_portPart (by decide) (by decide)⟩
    intro hmem
    have hclose' : ']' ∈ authority host port := by
      rw [authority_cases, if_neg hcolon]
      exact List.mem_append_left _ hmem
    unfold checkBrackets at hbrackets
    rw [if_pos (.inr hclose'), Bool.and_eq_true, Bool.and_eq_true] at hbrackets
    exact hopen' (of_decide_eq_true hbrackets.1.1)

/-- A host that comes back from its URL as it was written is settled. -/
theorem settled_of_authority (hchars : ∀ c ∈ host, isSpelled c = true) (hne : host ≠ [])
    (hbrackets : checkBrackets tables (authority host port) = true)
    (hs : s.netloc = authority host port) (hport : s.port ≠ none) {hostname host' : Text}
    {port' : Option Nat} (hhostname : s.hostname tables = some hostname)
    (hhost : canonicalHost tables hostname = some host')
    (heq : authority host' port' = authority host port) : Settled tables host := by
  have htext := hostText_of_authority hchars hne hbrackets hs hport hhostname hhost heq
  have hinfo : (hostinfo s.netloc).1 = host := by
    rw [hs, htext.hostinfo_eq]
  have hname := hostname_of_spelled hchars hinfo hhostname
  obtain ⟨hstripped, hlabels⟩ := canonicalHost_ascii
    (fun c hc => spelled_ascii (hchars c (hname ▸ hc))) hhost
  rw [hname] at hstripped
  have hstart : host' <+: host := hstripped ▸ List.rdropWhile_prefix _ _
  have hclose : ']' ∉ host := htext.notMem (by decide)
  have hclose' : ']' ∉ host' := fun h => hclose (hstart.mem h)
  have hsame : host' = host := by
    by_cases hcolon : ':' ∈ host
    · have hcolon' : ':' ∈ host' := by
        by_contra hnot
        have hmem : ']' ∈ authority host port := by
          rw [authority_cases, if_pos hcolon]
          exact List.mem_cons_of_mem _ (List.mem_append_right _ List.mem_cons_self)
        rw [← heq, authority_cases, if_neg hnot, List.mem_append] at hmem
        rcases hmem with hmem | hmem
        · exact hclose' hmem
        · exact notMem_portPart (by decide) (by decide) hmem
      rw [authority_cases, authority_cases, if_pos hcolon, if_pos hcolon'] at heq
      have hcut := congrArg (fun t => before ']' (after '[' t)) heq
      simp only [after_cons, before_append hclose, before_append hclose'] at hcut
      exact hcut
    · have hcolon' : ':' ∉ host' := fun h => hcolon (hstart.mem h)
      have hcut := congrArg (before ':') heq
      rw [before_authority hcolon', before_authority hcolon] at hcut
      exact hcut
  rw [hsame] at hstripped hlabels
  refine ⟨htext, ?_, hlabels⟩
  rw [hstripped]
  exact rstripDots_getLast host

theorem urlunsplit_netloc {scheme netloc netloc' path query : Text}
    (h : urlunsplit scheme netloc path query = urlunsplit scheme netloc' path query) :
    netloc = netloc' := by
  unfold urlunsplit at h
  have htail := List.append_cancel_left h
  simp only [List.cons.injEq, true_and] at htail
  exact List.append_cancel_right (List.append_cancel_right htail)

/-- Reading a URL back needs a settled host. -/
theorem Reads.settled (hg : Guarded tables) (h : Reads tables forbids raw s p)
    (hclean : ∀ c ∈ p.url, isControl c = false ∧ c ≠ '\\') {forbids' : SplitResult → Bool}
    {s' : SplitResult} {p' : UrlParts} (h' : Reads tables forbids' p.url s' p')
    (hurl : p'.url = p.url) : Settled tables p.host := by
  have hp := h.written
  have hcut := wellCut_of_urlsplit h.split
  have hmem : ∀ c ∈ p.host, c ∈ authority p.host (writtenPort p.scheme p.port) := by
    intro c hc
    rw [authority_cases]
    split
    · exact List.mem_cons_of_mem _ (List.mem_append_left _ hc)
    · exact List.mem_append_left _ hc
  have hinUrl : ∀ c ∈ authority p.host (writtenPort p.scheme p.port), c ∈ p.url := by
    intro c hc
    simp only [UrlParts.url, urlunsplit, List.mem_append, List.mem_cons]
    exact .inr (.inr (.inr (.inr (.inl (.inl hc)))))
  have hdelimiter : ∀ c ∈ p.host, isDelimiter c = false ∧ c ≠ '@' := by
    intro c hc
    have huser : '@' ∉ s.netloc := of_decide_eq_false h.userinfo
    refine ⟨?_, ?_⟩
    · rw [Bool.eq_false_iff]
      intro hbad
      have hreserved : isReserved c = true := by
        simp only [isDelimiter, Bool.or_eq_true, decide_eq_true_eq] at hbad
        rcases hbad with (rfl | rfl) | rfl <;> rfl
      rw [hcut.netloc c (h.host_reserved hg hc hreserved)] at hbad
      cases hbad
    · rintro rfl
      exact huser (h.host_reserved hg hc rfl)
  have hchars : ∀ c ∈ p.host, isSpelled c = true := by
    intro c hc
    obtain ⟨hascii, hlower, hpercent⟩ := hp.host.2 c hc
    obtain ⟨hcontrol, hslash⟩ := hclean c (hinUrl c (hmem c hc))
    simp only [isSpelled, Bool.and_eq_true, bne_iff_ne, beq_iff_eq, Bool.not_eq_true']
    exact ⟨⟨⟨⟨⟨⟨hascii, hlower⟩, (hdelimiter c hc).1⟩, (hdelimiter c hc).2⟩, hpercent⟩, hslash⟩,
      hcontrol⟩
  have hnetloc : ∀ c ∈ authority p.host (writtenPort p.scheme p.port),
      isDelimiter c = false ∧ isRemoved c = false := by
    intro c hc
    refine ⟨?_, ?_⟩
    · rcases mem_authority hc with hc | rfl | rfl | hc
      · exact (hdelimiter c hc).1
      · rfl
      · rfl
      · rcases mem_portPart hc with rfl | hdigit
        · rfl
        · have hchar := (isHostChar_digit hdigit).1
          simp only [isHostChar, Bool.and_eq_true, Bool.not_eq_true'] at hchar
          exact hchar.1.1.1.1.1.2
    · exact isRemoved_of_control (hclean c (hinUrl c hc)).1
  have hsplit := @urlsplit_urlunsplit tables _ _ _ _ hp.known (fun c hc => (hnetloc c hc).1)
    hp.head hp.path hp.query (fun c hc => by
      rw [List.append_assoc] at hc
      rcases List.mem_append.1 hc with hc | hc
      · exact (hnetloc c hc).2
      · exact hp.kept c hc)
  have hread := h'.split
  unfold UrlParts.url at hread
  rw [hsplit] at hread
  split at hread
  · rename_i hchecks
    rw [Bool.and_eq_true] at hchecks
    obtain rfl := Option.some.inj hread
    obtain ⟨hostname, hhostname, hhost⟩ := h'.host
    have hpath : p.path ≠ [] := by
      intro hnil
      have hhead := hp.head
      rw [hnil] at hhead
      cases hhead
    have hscheme : p'.scheme = p.scheme := h'.scheme.trans (lower_scheme hp)
    have hpath' : p'.path = p.path := h'.path.trans (if_neg hpath)
    have heq : authority p'.host (writtenPort p.scheme p'.port) =
        authority p.host (writtenPort p.scheme p.port) := by
      unfold UrlParts.url at hurl
      rw [hpath', h'.query, hscheme] at hurl
      exact urlunsplit_netloc hurl
    exact settled_of_authority hchars hp.host.1 hchecks.1 rfl
      (by rw [h'.port]; exact fun hnone => by cases hnone) hhostname hhost heq
  · cases hread

/-- A host that was cut from ASCII text is settled once its URL can be read. -/
theorem Reads.settled_of_ascii (h : Reads tables forbids raw s p)
    (hplain : ∀ c ∈ s.netloc, isAscii c = true ∧ c.toLower = c ∧ isControl c = false ∧ c ≠ '\\')
    {s' : SplitResult} (h' : urlsplit tables p.url = some s') : Settled tables p.host := by
  have hp := h.written
  have hcut := wellCut_of_urlsplit h.split
  have hat : '@' ∉ s.netloc := of_decide_eq_false h.userinfo
  obtain ⟨hostname, hhostname, hhost⟩ := h.host
  have hname : hostname = (hostinfo s.netloc).1 := by
    have hascii : (before '%' (hostinfo s.netloc).1).all isAscii = true :=
      List.all_eq_true.2 fun c hc => (hplain c (mem_hostinfo (mem_before hc).1)).1
    have hlower : (before '%' (hostinfo s.netloc).1).map Char.toLower =
        before '%' (hostinfo s.netloc).1 := by
      rw [List.map_congr_left, List.map_id]
      exact fun c hc => (hplain c (mem_hostinfo (mem_before hc).1)).2.1
    unfold SplitResult.hostname at hhostname
    dsimp only at hhostname
    rw [lower, if_pos hascii, hlower, before, List.takeWhile_append_dropWhile] at hhostname
    split at hhostname
    · cases hhostname
    · exact (Option.some.inj hhostname).symm
  have hmem : ∀ c ∈ hostname, c ∈ s.netloc := fun c hc => mem_hostinfo (hname ▸ hc)
  obtain ⟨hstripped, hlabels⟩ := canonicalHost_ascii
    (fun c hc => ⟨(hplain c (hmem c hc)).1, (hplain c (hmem c hc)).2.1⟩) hhost
  have hstart : p.host <+: hostname := hstripped ▸ List.rdropWhile_prefix _ _
  have hchars : ∀ c ∈ p.host, isSpelled c = true := by
    intro c hc
    obtain ⟨hascii, hlower, hcontrol, hslash⟩ := hplain c (hmem c (hstart.mem hc))
    simp only [isSpelled, Bool.and_eq_true, bne_iff_ne, beq_iff_eq, Bool.not_eq_true']
    exact ⟨⟨⟨⟨⟨⟨hascii, hlower⟩, hcut.netloc c (hmem c (hstart.mem hc))⟩,
      fun heq => hat (heq ▸ hmem c (hstart.mem hc))⟩, (hp.host.2 c hc).2.2⟩, hslash⟩, hcontrol⟩
  have hclose : ']' ∉ p.host := by
    intro hc
    have hinfo : ']' ∈ (hostinfo s.netloc).1 := hname ▸ hstart.mem hc
    have hnetloc := mem_hostinfo hinfo
    have hbrackets := hcut.brackets
    unfold checkBrackets at hbrackets
    rw [if_pos (.inr hnetloc), Bool.and_eq_true, Bool.and_eq_true] at hbrackets
    unfold hostinfo at hinfo
    simp only [afterLast_of_notMem hat, if_pos (of_decide_eq_true hbrackets.1.1)] at hinfo
    exact notMem_before _ _ hinfo
  have hnetloc : ∀ c ∈ authority p.host (writtenPort p.scheme p.port),
      isDelimiter c = false ∧ isRemoved c = false := by
    intro c hc
    rcases mem_authority hc with hc | rfl | rfl | hc
    · have hspelled := hchars c hc
      simp only [isSpelled, Bool.and_eq_true, Bool.not_eq_true'] at hspelled
      exact ⟨hspelled.1.1.1.1.2, isRemoved_of_control hspelled.2⟩
    · exact ⟨rfl, rfl⟩
    · exact ⟨rfl, rfl⟩
    · rcases mem_portPart hc with rfl | hdigit
      · exact ⟨rfl, rfl⟩
      · have hchar := (isHostChar_digit hdigit).1
        simp only [isHostChar, Bool.and_eq_true, Bool.not_eq_true'] at hchar
        exact ⟨hchar.1.1.1.1.1.2, isRemoved_of_control hchar.2⟩
  have hbrackets : checkBrackets tables (authority p.host (writtenPort p.scheme p.port)) = true := by
    unfold UrlParts.url at h'
    rw [urlsplit_urlunsplit hp.known (fun c hc => (hnetloc c hc).1) hp.head hp.path hp.query
      (fun c hc => by
        rw [List.append_assoc] at hc
        rcases List.mem_append.1 hc with hc | hc
        · exact (hnetloc c hc).2
        · exact hp.kept c hc)] at h'
    split at h'
    · rename_i hchecks
      exact (Bool.and_eq_true_iff.1 hchecks).1
    · cases h'
  refine ⟨hostText_of_brackets hchars hp.host.1 hclose hbrackets, ?_, hlabels⟩
  rw [hstripped]
  exact rstripDots_getLast hostname

end Parts

end MediaSync.Network
