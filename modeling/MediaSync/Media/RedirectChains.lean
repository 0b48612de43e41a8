import MediaSync.Media.LocatorReloads

/-!
# Where a redirect chain can lead

Whatever the resolver and the servers answer, a chain opens a bounded number of
requests, each of them to a public address that the host of this hop resolves
to. It does not come back from `https` to `http`, and the headers that ask for a
range do not leave the origin at which the chain has started.

A hop brings the URL that it is given into the one spelling a second time. Where
the host of that URL is not settled, the request goes to another URL than the one
that the chain remembers.
-/

namespace MediaSync.Network

open Python
open JsonText (Text)
open Transaction (except_bind_ok)
open Checks
open Urls

/-! ## One target -/

section Targets

variable {tables : Tables} {resolver : AddressResolver} {limit : Nat} {current : Text}
  {target : ValidatedTarget} {s : SplitResult} {p : UrlParts}

/-- The address is the literal host or one of those that the host resolves to, and all of them are
public. -/
def Pinned (tables : Tables) (resolver : AddressResolver) (target : ValidatedTarget) : Prop :=
  (∃ literal, tables.ipAddress target.hostname = some literal ∧ isPublic literal = true ∧
    target.address = literal.text) ∨
  tables.ipAddress target.hostname = none ∧ ∃ answers addresses,
    resolver target.hostname target.port = .ok answers ∧
    answers.mapM tables.ipAddress = some addresses ∧
    (∀ a ∈ addresses, isPublic a = true) ∧ ∃ a ∈ addresses, target.address = a.text

def ValidatedTarget.origin (target : ValidatedTarget) : Text × Text × Nat :=
  (target.scheme, target.hostname, target.port)

/-- The backend connects to nothing but its target. -/
theorem connectTcp_target {host : Text} {port : Nat} {peer : Text × Nat}
    (h : connectTcp tables target host port = some peer) :
    peer = (target.address, target.port) := by
  unfold connectTcp backendAccepts at h
  split at h
  · rename_i haccepts
    rw [Bool.and_eq_true, decide_eq_true_iff, decide_eq_true_iff] at haccepts
    cases h
    rw [haccepts.2]
  · cases h

theorem selectAddress_mem (best : IpAddress) (rest : List IpAddress) :
    selectAddress best rest ∈ best :: rest := by
  induction rest generalizing best with
  | nil => exact List.mem_singleton_self best
  | cons a rest ih =>
    unfold selectAddress
    split
    · exact List.mem_cons_of_mem _ (ih a)
    · rcases List.mem_cons.1 (ih best) with h | h
      · rw [h]
        exact List.mem_cons_self
      · exact List.mem_cons_of_mem _ (List.mem_cons_of_mem _ h)

/-- What a target is. -/
theorem validateTarget_ok (h : validateTarget tables resolver limit current = .ok target) :
    canonicalRuntimeUrl tables limit current = .ok target.url ∧ Pinned tables resolver target ∧
      ∃ parsed port, urlsplit tables target.url = some parsed ∧
        parsed.hostname tables = some target.hostname ∧ parsed.scheme = target.scheme ∧
        parsed.port = some port ∧ target.port = effectivePort target.scheme port := by
  obtain ⟨canonical, hcanonical, h⟩ := except_bind_ok h
  obtain ⟨parsed, hparsed, h⟩ := except_bind_ok h
  obtain ⟨hostname, hhostname, h⟩ := except_bind_ok h
  obtain ⟨port, hport, h⟩ := except_bind_ok h
  obtain ⟨addresses, haddresses, h⟩ := except_bind_ok h
  obtain ⟨first, hfirst, h⟩ := except_bind_ok h
  cases h
  refine ⟨hcanonical, ?_, parsed, port, orFail_ok.1 hparsed, orFail_ok.1 hhostname, rfl,
    orFail_ok.1 hport, rfl⟩
  have hselected : selectAddress first addresses.tail ∈ addresses := by
    have hcons := List.cons_head?_tail (orFail_ok.1 hfirst)
    rw [← hcons]
    exact selectAddress_mem first _
  unfold targetAddresses at haddresses
  unfold Pinned
  cases hliteral : tables.ipAddress hostname with
  | some literal =>
    rw [hliteral] at haddresses
    simp only [Option.elim_some] at haddresses
    split at haddresses
    · rename_i hpublic
      cases haddresses
      exact .inl ⟨literal, rfl, hpublic, by rw [List.mem_singleton.1 hselected]⟩
    · cases haddresses
  | none =>
    rw [hliteral, Option.elim_none] at haddresses
    obtain ⟨answers, hanswers, haddresses⟩ := except_bind_ok haddresses
    obtain ⟨_, -, haddresses⟩ := except_bind_ok haddresses
    obtain ⟨found, hall, haddresses⟩ := except_bind_ok haddresses
    obtain ⟨_, -, haddresses⟩ := except_bind_ok haddresses
    obtain ⟨_, hpublic, haddresses⟩ := except_bind_ok haddresses
    cases haddresses
    exact .inr ⟨rfl, answers, addresses, ok_of_mapError hanswers, orFail_ok.1 hall,
      List.all_eq_true.1 (require_ok.1 hpublic), _, hselected, rfl⟩

theorem effectivePort_written (scheme : Text) (port : Option Nat) :
    effectivePort scheme (writtenPort scheme port) = effectivePort scheme port := by
  have hdefault : defaultPort scheme ≠ 0 := by
    unfold defaultPort
    split
    · decide
    · decide
  unfold writtenPort
  by_cases h : port = some (defaultPort scheme)
  · have hnonzero : port ≠ some 0 := by
      rw [h]
      exact fun heq => hdefault (Option.some.inj heq)
    rw [if_pos h, effectivePort, effectivePort, if_neg hnonzero, h]
    rfl
  · rw [if_neg h]

theorem mem_takeWhile_authority {netloc path rest : Text} (hhead : path.head? = some '/') {c : Char}
    (h : c ∈ (netloc ++ path ++ rest).takeWhile (fun c => !isDelimiter c)) : c ∈ netloc := by
  obtain ⟨tail, rfl⟩ : ∃ tail, path = '/' :: tail := by
    cases path with
    | nil => cases hhead
    | cons d tail => exact ⟨tail, by cases hhead; rfl⟩
  rw [List.append_assoc, List.cons_append, List.takeWhile_append] at h
  split at h
  · rcases List.mem_append.1 h with h | h
    · exact h
    · simp [isDelimiter] at h
  · exact (List.takeWhile_prefix _).mem h

/-- A URL in its one spelling is read once more: the host that is found is settled. -/
theorem UrlParts.Written.again {v : Text} (hp : p.Written)
    (h : canonicalRuntimeUrl tables limit p.url = .ok v) {s' : SplitResult}
    (h' : urlsplit tables v = some s') :
    ∃ s q, Reads tables (fun _ => false) p.url s q ∧ q.url = v ∧ Settled tables q.host ∧
      s.scheme = p.scheme ∧ q.scheme = p.scheme := by
  obtain ⟨-, -, hcontrol, hmarks, s, q, hreads, rfl⟩ := canonicalRuntimeUrl_ok.1 h
  have hsplit := hreads.split
  unfold UrlParts.url at hsplit
  rw [urlsplit_kept hp.known fun c hc => isRemoved_of_control (hcontrol c hc)] at hsplit
  split at hsplit
  · have hs := (Option.some.inj hsplit).symm
    have hscheme : s.scheme = p.scheme := by
      rw [hs]
      rfl
    have hnetloc : ∀ c ∈ s.netloc, c ∈ authority p.host (writtenPort p.scheme p.port) := by
      intro c hc
      rw [hs] at hc
      exact mem_takeWhile_authority hp.head hc
    have hcut := wellCut_of_urlsplit hreads.split
    refine ⟨s, q, hreads, rfl, hreads.settled_of_ascii (fun c hc => ?_) h', hscheme, ?_⟩
    · have hurl := (hcut.chars c (List.mem_append_left _ (List.mem_append_left _ hc))).1
      have hplain : isAscii c = true ∧ c.toLower = c := by
        rcases mem_authority (hnetloc c hc) with hc | rfl | rfl | hc
        · exact ⟨(hp.host.2 c hc).1, (hp.host.2 c hc).2.1⟩
        · exact ⟨rfl, rfl⟩
        · exact ⟨rfl, rfl⟩
        · rcases mem_portPart hc with rfl | hdigit
          · exact ⟨rfl, rfl⟩
          · have hchar := (isHostChar_digit hdigit).1
            simp only [isHostChar, Bool.and_eq_true, beq_iff_eq] at hchar
            exact ⟨hchar.1.1.1.1.1.1.1, hchar.1.1.1.1.1.1.2⟩
      exact ⟨hplain.1, hplain.2, hcontrol c hurl, (hmarks c hurl).1⟩
    · rw [hreads.scheme, hscheme, lower_scheme hp]
  · cases hsplit

/-- A target, by the parts of the URL it comes from. -/
structure TargetOf (tables : Tables) (current : Text) (scheme : Text) (target : ValidatedTarget)
    (s : SplitResult) (p : UrlParts) : Prop where
  reads : Reads tables (fun _ => false) current s p
  url : p.url = target.url
  settled : Settled tables p.host
  schemes : s.scheme = scheme ∧ p.scheme = scheme
  origin : target.origin = (scheme, p.host, effectivePort scheme p.port)

theorem UrlParts.Written.targetOf (hp : p.Written)
    (h : validateTarget tables resolver limit p.url = .ok target) :
    ∃ s q, TargetOf tables p.url p.scheme target s q := by
  obtain ⟨hcanonical, -, parsed, port, hparsed, hhostname, hscheme, hport, heffective⟩ :=
    validateTarget_ok h
  obtain ⟨s, q, hreads, hurl, hsettled, hs, hq⟩ := hp.again hcanonical hparsed
  refine ⟨s, q, hreads, hurl, hsettled, ⟨hs, hq⟩, ?_⟩
  have hagain : Reads tables (fun _ => false) q.url q.split q.reread :=
    hreads.written.reads hsettled rfl hreads.nonzero
  have hsplit : parsed = q.split := by
    rw [← hurl, hagain.split] at hparsed
    exact (Option.some.inj hparsed).symm
  have hname : target.hostname = q.host := by
    rw [hsplit, hsettled.hostname_eq rfl] at hhostname
    exact (Option.some.inj hhostname).symm
  have hschemes : target.scheme = p.scheme := by
    rw [← hscheme, hsplit, ← hq]
    rfl
  have hports : port = writtenPort p.scheme q.port := by
    rw [hsplit, hagain.port] at hport
    rw [← hq]
    exact (Option.some.inj hport).symm
  rw [ValidatedTarget.origin, heffective, hports, hschemes, hname, effectivePort_written]

/-- A URL in its one spelling. -/
def Spelled (tables : Tables) (limit : Nat) (url : Text) : Prop :=
  ∃ raw, canonicalRuntimeUrl tables limit raw = .ok url

theorem Spelled.parts {url : Text} (h : Spelled tables limit url) :
    ∃ p : UrlParts, p.Written ∧ p.url = url := by
  obtain ⟨raw, hraw⟩ := h
  obtain ⟨-, -, -, -, s, p, hreads, hurl⟩ := canonicalRuntimeUrl_ok.1 hraw
  exact ⟨p, hreads.written, hurl⟩

/-- Where a URL comes from does not depend on who resolves it. -/
theorem origin_unique {resolver' : AddressResolver} {target' : ValidatedTarget}
    (hspelled : Spelled tables limit current)
    (h : validateTarget tables resolver limit current = .ok target)
    (h' : validateTarget tables resolver' limit current = .ok target') :
    target.origin = target'.origin := by
  obtain ⟨p, hp, rfl⟩ := hspelled.parts
  obtain ⟨s, q, htarget⟩ := hp.targetOf h
  obtain ⟨s', q', htarget'⟩ := hp.targetOf h'
  obtain ⟨-, rfl⟩ := htarget.reads.unique htarget'.reads
  rw [htarget.origin, htarget'.origin]

/-- The origin of a target's URL. -/
theorem origin_target (h : validateTarget tables resolver limit current = .ok target) :
    origin tables target.url = .ok target.origin := by
  obtain ⟨-, -, parsed, port, hparsed, hhostname, hscheme, hport, heffective⟩ := validateTarget_ok h
  unfold origin
  rw [orFail_some hparsed, orFail_some hhostname, orFail_some hport, hscheme, ← heffective]
  rfl

/-- A URL of the same origin as a target has a target of this origin. -/
theorem origin_kept {url : Text} {resolver' : AddressResolver} {target' : ValidatedTarget}
    (hspelled : Spelled tables limit current) (hurl : Spelled tables limit url)
    (h : validateTarget tables resolver limit current = .ok target)
    (h' : validateTarget tables resolver' limit url = .ok target')
    (hsame : origin tables url = .ok target.origin) : target'.origin = target.origin := by
  obtain ⟨p, hp, rfl⟩ := hspelled.parts
  obtain ⟨s, q, htarget⟩ := hp.targetOf h
  obtain ⟨p', hp', rfl⟩ := hurl.parts
  obtain ⟨s', q', htarget'⟩ := hp'.targetOf h'
  obtain ⟨parsed, hparsed, hsame⟩ := except_bind_ok hsame
  obtain ⟨hostname, hhostname, hsame⟩ := except_bind_ok hsame
  obtain ⟨port, hport, hsame⟩ := except_bind_ok hsame
  have hsplit : parsed = s' :=
    Option.some.inj ((orFail_ok.1 hparsed).symm.trans htarget'.reads.split)
  subst hsplit
  have hports : port = q'.port :=
    Option.some.inj ((orFail_ok.1 hport).symm.trans htarget'.reads.port)
  have horigin := Except.ok.inj hsame
  rw [htarget.origin, Prod.mk.injEq, Prod.mk.injEq] at horigin
  obtain ⟨hscheme, hhost, heffective⟩ := horigin
  obtain ⟨hostname', hhostname', hhost'⟩ := htarget'.reads.host
  have hname : hostname' = q.host := by
    rw [← Option.some.inj ((orFail_ok.1 hhostname).symm.trans hhostname'), hhost]
  rw [hname, htarget.settled.canonicalHost_eq] at hhost'
  rw [htarget'.origin, htarget.origin, ← Option.some.inj hhost', ← htarget'.schemes.1, hscheme,
    ← hports]
  rw [hscheme] at heffective
  rw [heffective]

/-- The host of a URL is settled once the codec has encoded it. -/
def SettledHost (tables : Tables) (raw : Text) : Prop :=
  OfParts tables raw fun p => Settled tables p.host

theorem settledHost_of_split {raw : Text} (hostname encoded : Text) {s : SplitResult}
    (hsplit : urlsplit tables raw = some s) (hname : s.hostname tables = some hostname)
    (hencoded : idnaEncode tables (rstripDots hostname) = some encoded)
    (h : Settled tables (encoded.map Char.toLower)) : SettledHost tables raw := by
  intro s' hostname' encoded' port hsplit' hname' hencoded' _
  cases hsplit.symm.trans hsplit'
  cases hname.symm.trans hname'
  cases hencoded.symm.trans hencoded'
  exact h

/-- A URL with a settled host is its own spelling. -/
theorem SettledHost.again {raw v : Text} (h : SettledHost tables raw)
    (hraw : canonicalRuntimeUrl tables limit raw = .ok current)
    (hagain : canonicalRuntimeUrl tables limit current = .ok v) : v = current := by
  obtain ⟨-, -, -, -, s, p, hreads, rfl⟩ := canonicalRuntimeUrl_ok.1 hraw
  obtain ⟨-, -, -, -, s', p', hreads', rfl⟩ := canonicalRuntimeUrl_ok.1 hagain
  have hread : Reads tables (fun _ => false) p.url p.split p.reread :=
    hreads.written.reads (hreads.ofParts.1 h) rfl hreads.nonzero
  obtain ⟨-, rfl⟩ := hread.unique hreads'
  exact p.reread_url

end Targets

/-! ## Chains -/

/-- The headers that ask for a range are not there. -/
def Unranged (tables : Tables) (headers : Headers) : Prop :=
  ∀ h ∈ headers, lower tables h.1 ∉ rangeNames

/-- A header is spelled as those that are dropped, or is none of them. -/
def Tame (tables : Tables) (headers : Headers) : Prop :=
  ∀ h ∈ headers, h.1 ∈ rangeNames ∨ lower tables h.1 ∉ rangeNames

section Chains

variable (client : SafeHttpClient) (world : HttpWorld)

/-- The answer to a request redirects to a URL. -/
def SafeHttpClient.LeadsTo (k : Nat) (request : HopRequest) (raw : Text) : Prop :=
  ∃ response, world.send k request = .ok response ∧ response.status ∈ redirectStatuses ∧
    world.urljoin request.target.url ((locations client.tables response).headD []) = some raw

/-- What is known of a request that a hop opens. -/
structure SafeHttpClient.Opens (k : Nat) (current : Text) (visited : List Text) (headers : Headers)
    (request : HopRequest) : Prop where
  fresh : current ∉ visited
  target : validateTarget client.tables (world.resolve k) client.limits.maxUrlChars current =
    .ok request.target
  headers : request.headers = headers ++ [("Host".toList, request.target.hostHeader)]

/-- What is known of a redirect that a hop follows. -/
structure SafeHttpClient.Follows (k : Nat) (request : HopRequest) (next : Text)
    (sameOrigin : Bool) : Prop where
  leads : ∃ raw, client.LeadsTo world k request raw ∧
    canonicalRuntimeUrl client.tables client.limits.maxUrlChars raw = .ok next
  upward : ∃ parsed, urlsplit client.tables next = some parsed ∧
    ¬(request.target.scheme = "https".toList ∧ parsed.scheme = "http".toList)
  origin : sameOrigin = true → origin client.tables next = origin client.tables request.target.url

/-- The requests of a chain and how it ends, with the requests that are left, the number of the
hop, the URL it starts from, the URLs before it and the headers. -/
inductive SafeHttpClient.Chain : Nat → Nat → Text → List Text → Headers → List HopRequest →
    Except NetworkError (HttpResponse × ValidatedTarget) → Prop
  | refused {n k current visited headers e} : Chain n k current visited headers [] (.error e)
  | failed {n k current visited headers request e}
      (opens : client.Opens world k current visited headers request) :
      Chain (n + 1) k current visited headers [request] (.error e)
  | answered {n k current visited headers request response}
      (opens : client.Opens world k current visited headers request)
      (sent : world.send k request = .ok response) (final : response.status ∉ redirectStatuses) :
      Chain (n + 1) k current visited headers [request] (.ok (response, request.target))
  | followed {n k current visited headers request next sameOrigin requests outcome}
      (opens : client.Opens world k current visited headers request)
      (follows : client.Follows world k request next sameOrigin)
      (rest : Chain n (k + 1) next (current :: visited)
        (if sameOrigin then headers else dropRanges headers) requests outcome) :
      Chain (n + 1) k current visited headers (request :: requests) outcome

end Chains

section Runs

variable {client : SafeHttpClient} {world : HttpWorld} {request : HopRequest} {next : Text}
  {n k : Nat} {current : Text} {visited : List Text} {headers : Headers}
  {requests : List HopRequest} {outcome : Except NetworkError (HttpResponse × ValidatedTarget)}

theorem hopEnd_answered {last : Bool} {response : HttpResponse}
    (h : client.hopEnd world k last request = .ok (.answered response)) :
    world.send k request = .ok response ∧ response.status ∉ redirectStatuses := by
  obtain ⟨sent, hsent, h⟩ := except_bind_ok h
  obtain ⟨_, -, h⟩ := except_bind_ok h
  split at h
  · rename_i hfinal
    cases h
    exact ⟨ok_of_mapError hsent, hfinal⟩
  · obtain ⟨_, -, h⟩ := except_bind_ok h
    obtain ⟨_, -, h⟩ := except_bind_ok h
    obtain ⟨_, -, h⟩ := except_bind_ok h
    obtain ⟨_, -, h⟩ := except_bind_ok h
    obtain ⟨_, -, h⟩ := except_bind_ok h
    obtain ⟨_, -, h⟩ := except_bind_ok h
    obtain ⟨_, -, h⟩ := except_bind_ok h
    obtain ⟨_, -, h⟩ := except_bind_ok h
    cases h

theorem hopEnd_redirected {last sameOrigin : Bool}
    (h : client.hopEnd world k last request = .ok (.redirected next sameOrigin)) :
    client.Follows world k request next sameOrigin := by
  obtain ⟨sent, hsent, h⟩ := except_bind_ok h
  obtain ⟨_, -, h⟩ := except_bind_ok h
  split at h
  · cases h
  · rename_i hstatus
    obtain ⟨_, -, h⟩ := except_bind_ok h
    obtain ⟨_, -, h⟩ := except_bind_ok h
    obtain ⟨raw, hraw, h⟩ := except_bind_ok h
    obtain ⟨redirected, hredirected, h⟩ := except_bind_ok h
    obtain ⟨parsed, hparsed, h⟩ := except_bind_ok h
    obtain ⟨_, hupward, h⟩ := except_bind_ok h
    obtain ⟨here, hhere, h⟩ := except_bind_ok h
    obtain ⟨there, hthere, h⟩ := except_bind_ok h
    cases h
    refine ⟨⟨raw, ⟨sent, ok_of_mapError hsent, Decidable.not_not.1 hstatus, orFail_ok.1 hraw⟩,
      hredirected⟩, ⟨parsed, orFail_ok.1 hparsed, ?_⟩, fun hsame => ?_⟩
    · have hboth := require_ok.1 hupward
      rw [Bool.not_eq_true', Bool.and_eq_false_iff] at hboth
      rintro ⟨hhttps, hhttp⟩
      rcases hboth with hbad | hbad
      · exact of_decide_eq_false hbad hhttps
      · exact of_decide_eq_false hbad hhttp
    · rw [hthere, hhere, of_decide_eq_true hsame]

/-- The hops are a chain. -/
theorem chain_hops (client : SafeHttpClient) (world : HttpWorld) (timeout : ℚ) (n k : Nat)
    (current : Text) (visited : List Text) (headers : Headers) :
    client.Chain world n k current visited headers
      (client.hops world timeout n k current visited headers).1
      (client.hops world timeout n k current visited headers).2 := by
  induction n generalizing k current visited headers with
  | zero => exact .refused
  | succ n ih =>
    unfold SafeHttpClient.hops
    split
    · exact .refused
    · rename_i hfresh
      split
      · exact .refused
      · split
        · exact .refused
        · rename_i target htarget
          have hopens : client.Opens world k current visited headers
              ⟨target, headers ++ [("Host".toList, target.hostHeader)]⟩ :=
            ⟨hfresh, htarget, rfl⟩
          dsimp only
          split
          · exact .failed hopens
          · rename_i response hanswered
            obtain ⟨hsent, hfinal⟩ := hopEnd_answered hanswered
            exact .answered hopens hsent hfinal
          · rename_i url sameOrigin hredirected
            exact .followed hopens (hopEnd_redirected hredirected) (ih _ _ _ _)

theorem SafeHttpClient.Follows.spelled {sameOrigin : Bool}
    (h : client.Follows world k request next sameOrigin) :
    Spelled client.tables client.limits.maxUrlChars next := by
  obtain ⟨raw, -, hraw⟩ := h.leads
  exact ⟨raw, hraw⟩

theorem chain_length (h : client.Chain world n k current visited headers requests outcome) :
    requests.length ≤ n := by
  induction h with
  | refused => exact Nat.zero_le _
  | failed => exact Nat.succ_le_succ (Nat.zero_le _)
  | answered => exact Nat.succ_le_succ (Nat.zero_le _)
  | followed _ _ _ ih => exact Nat.succ_le_succ ih

theorem chain_pinned (h : client.Chain world n k current visited headers requests outcome) {i : Nat}
    (hi : requests[i]? = some request) :
    Pinned client.tables (world.resolve (k + i)) request.target := by
  induction h generalizing i with
  | refused => cases hi
  | failed opens =>
    cases i with
    | zero =>
      cases hi
      exact (validateTarget_ok opens.target).2.1
    | succ i => cases hi
  | answered opens =>
    cases i with
    | zero =>
      cases hi
      exact (validateTarget_ok opens.target).2.1
    | succ i => cases hi
  | @followed n k _ _ _ _ _ _ _ _ opens _ _ ih =>
    cases i with
    | zero =>
      cases hi
      exact (validateTarget_ok opens.target).2.1
    | succ i =>
      have hpinned := ih hi
      rwa [Nat.add_right_comm] at hpinned

/-- Every target of the URL is reached over `https`. -/
def OverHttps (client : SafeHttpClient) (url : Text) : Prop :=
  ∀ resolver target, validateTarget client.tables resolver client.limits.maxUrlChars url =
    .ok target → target.scheme = "https".toList

theorem SafeHttpClient.Follows.overHttps {sameOrigin : Bool}
    (h : client.Follows world k request next sameOrigin)
    (hscheme : request.target.scheme = "https".toList) : OverHttps client next := by
  intro resolver target htarget
  obtain ⟨p, hp, rfl⟩ := h.spelled.parts
  obtain ⟨s, q, hof⟩ := hp.targetOf htarget
  obtain ⟨parsed, hparsed, hupward⟩ := h.upward
  have hsplit : parsed = s := Option.some.inj (hparsed.symm.trans hof.reads.split)
  have htarget' : target.scheme = p.scheme := congrArg Prod.fst hof.origin
  rcases hp.known with hknown | hknown
  · exact absurd ⟨hscheme, by rw [hsplit, hof.schemes.1, hknown]⟩ hupward
  · rw [htarget', hknown]

theorem chain_overHttps (h : client.Chain world n k current visited headers requests outcome)
    (hcurrent : OverHttps client current) :
    ∀ request ∈ requests, request.target.scheme = "https".toList := by
  induction h with
  | refused => exact fun request hrequest => absurd hrequest List.not_mem_nil
  | failed opens =>
    intro request hrequest
    rw [List.mem_singleton.1 hrequest]
    exact hcurrent _ _ opens.target
  | answered opens =>
    intro request hrequest
    rw [List.mem_singleton.1 hrequest]
    exact hcurrent _ _ opens.target
  | followed opens follows _ ih =>
    have hfirst := hcurrent _ _ opens.target
    intro request hrequest
    rcases List.mem_cons.1 hrequest with rfl | hrequest
    · exact hfirst
    · exact ih (follows.overHttps hfirst) request hrequest

/-- After a request over `https` there is none over `http`. -/
theorem chain_upward (h : client.Chain world n k current visited headers requests outcome) :
    requests.Pairwise fun a b =>
      a.target.scheme = "https".toList → b.target.scheme = "https".toList := by
  induction h with
  | refused => exact .nil
  | failed => exact List.pairwise_singleton _ _
  | answered => exact List.pairwise_singleton _ _
  | followed _ follows rest ih =>
    exact .cons (fun b hb hscheme => chain_overHttps rest (follows.overHttps hscheme) b hb) ih

theorem lower_host (tables : Tables) : lower tables "Host".toList ∉ rangeNames := by
  have hascii : "Host".toList.all isAscii = true := by decide
  rw [lower, if_pos hascii]
  decide

theorem unranged_dropRanges {tables : Tables} (h : Tame tables headers) :
    Unranged tables (dropRanges headers) := by
  intro header hheader
  obtain ⟨hmem, hkept⟩ := List.mem_filter.1 hheader
  exact (h header hmem).resolve_left (of_decide_eq_true hkept)

theorem SafeHttpClient.Opens.unranged (h : client.Opens world k current visited headers request)
    (hheaders : Unranged client.tables headers) : Unranged client.tables request.headers := by
  rw [h.headers]
  intro header hheader
  rcases List.mem_append.1 hheader with hheader | hheader
  · exact hheaders header hheader
  · rw [List.mem_singleton.1 hheader]
    exact lower_host client.tables

/-- Headers that have been dropped do not come back. -/
theorem chain_unranged (h : client.Chain world n k current visited headers requests outcome)
    (hheaders : Unranged client.tables headers) :
    ∀ request ∈ requests, Unranged client.tables request.headers := by
  induction h with
  | refused => exact fun request hrequest => absurd hrequest List.not_mem_nil
  | failed opens =>
    intro request hrequest
    rw [List.mem_singleton.1 hrequest]
    exact opens.unranged hheaders
  | answered opens =>
    intro request hrequest
    rw [List.mem_singleton.1 hrequest]
    exact opens.unranged hheaders
  | @followed _ _ _ _ headers _ _ sameOrigin _ _ opens _ _ ih =>
    intro request hrequest
    rcases List.mem_cons.1 hrequest with rfl | hrequest
    · exact opens.unranged hheaders
    · refine ih ?_ request hrequest
      cases sameOrigin with
      | true => exact hheaders
      | false => exact fun header hheader => hheaders header (List.mem_filter.1 hheader).1

/-- Every target of the URL has this origin. -/
def HasOrigin (client : SafeHttpClient) (url : Text) (origin : Text × Text × Nat) : Prop :=
  ∀ resolver target, validateTarget client.tables resolver client.limits.maxUrlChars url =
    .ok target → target.origin = origin

/-- From the first request of another origin on, no header asks for a range. -/
theorem chain_ranged (h : client.Chain world n k current visited headers requests outcome)
    (hspelled : Spelled client.tables client.limits.maxUrlChars current)
    (htame : Tame client.tables headers) {origin : Text × Text × Nat}
    (horigin : HasOrigin client current origin) {i j : Nat} {a b : HopRequest} (hij : i ≤ j)
    (ha : requests[i]? = some a) (hb : requests[j]? = some b) (hleft : a.target.origin ≠ origin) :
    Unranged client.tables b.headers := by
  induction h generalizing i j with
  | refused => cases ha
  | failed opens =>
    cases i with
    | zero =>
      cases ha
      exact absurd (horigin _ _ opens.target) hleft
    | succ i => cases ha
  | answered opens =>
    cases i with
    | zero =>
      cases ha
      exact absurd (horigin _ _ opens.target) hleft
    | succ i => cases ha
  | @followed _ _ _ _ headers request next sameOrigin _ _ opens follows rest ih =>
    cases i with
    | zero =>
      cases ha
      exact absurd (horigin _ _ opens.target) hleft
    | succ i =>
      cases j with
      | zero => exact absurd hij (Nat.not_succ_le_zero i)
      | succ j =>
        cases sameOrigin with
        | true =>
          have hfirst := horigin _ _ opens.target
          refine ih follows.spelled htame (fun resolver target htarget => ?_)
            (Nat.le_of_succ_le_succ hij) ha hb
          rw [← hfirst]
          refine origin_kept hspelled follows.spelled opens.target htarget ?_
          rw [follows.origin rfl, origin_target opens.target]
        | false =>
          exact chain_unranged rest (unranged_dropRanges htame) b (List.mem_of_getElem? hb)

/-- The URL is the one that is requested. -/
def Kept (client : SafeHttpClient) (url : Text) : Prop :=
  ∀ v, canonicalRuntimeUrl client.tables client.limits.maxUrlChars url = .ok v → v = url

/-- Every URL that the requests lead to has a settled host. -/
def SettledRedirects (client : SafeHttpClient) (world : HttpWorld) (k : Nat)
    (requests : List HopRequest) : Prop :=
  ∀ i request raw, requests[i]? = some request → client.LeadsTo world (k + i) request raw →
    SettledHost client.tables raw

theorem SettledRedirects.tail (h : SettledRedirects client world k (request :: requests)) :
    SettledRedirects client world (k + 1) requests := by
  intro i a raw ha hleads
  refine h (i + 1) a raw ha ?_
  rwa [Nat.add_assoc, Nat.add_comm 1] at hleads

theorem SettledRedirects.kept {sameOrigin : Bool}
    (h : SettledRedirects client world k (request :: requests))
    (hfollows : client.Follows world k request next sameOrigin) : Kept client next := by
  obtain ⟨raw, hleads, hraw⟩ := hfollows.leads
  exact fun v hv => (h 0 request raw rfl hleads).again hraw hv

theorem SafeHttpClient.Opens.url (h : client.Opens world k current visited headers request)
    (hkept : Kept client current) : request.target.url = current :=
  hkept _ (validateTarget_ok h.target).1

/-- No URL is requested a second time. -/
theorem chain_distinct (h : client.Chain world n k current visited headers requests outcome)
    (hkept : Kept client current) (hredirects : SettledRedirects client world k requests) :
    (∀ a ∈ requests, a.target.url ∉ visited) ∧
      (requests.map fun a => a.target.url).Nodup := by
  induction h with
  | refused => exact ⟨fun a ha => absurd ha List.not_mem_nil, List.nodup_nil⟩
  | failed opens =>
    refine ⟨fun a ha => ?_, List.nodup_singleton _⟩
    rw [List.mem_singleton.1 ha, opens.url hkept]
    exact opens.fresh
  | answered opens =>
    refine ⟨fun a ha => ?_, List.nodup_singleton _⟩
    rw [List.mem_singleton.1 ha, opens.url hkept]
    exact opens.fresh
  | followed opens follows _ ih =>
    obtain ⟨hfresh, hdistinct⟩ := ih (hredirects.kept follows) hredirects.tail
    have hurl := opens.url hkept
    refine ⟨fun a ha => ?_, List.nodup_cons.2 ⟨fun hmem => ?_, hdistinct⟩⟩
    · rcases List.mem_cons.1 ha with rfl | ha
      · rw [hurl]
        exact opens.fresh
      · exact fun hmem => hfresh a ha (List.mem_cons_of_mem _ hmem)
    · obtain ⟨a, ha, heq⟩ := List.mem_map.1 hmem
      exact hfresh a ha (heq ▸ hurl ▸ List.mem_cons_self)

/-- A hop that starts from a URL of an earlier one opens no request. -/
theorem chain_visited (h : client.Chain world n k current visited headers requests outcome)
    (hvisited : current ∈ visited) : ∃ e, outcome = .error e := by
  cases h with
  | refused => exact ⟨_, rfl⟩
  | failed => exact ⟨_, rfl⟩
  | answered opens => exact absurd hvisited opens.fresh
  | followed opens => exact absurd hvisited opens.fresh

/-- The URL of a redirect that has been requested before ends the chain with an error. -/
theorem chain_repeated (h : client.Chain world n k current visited headers requests outcome)
    (hkept : Kept client current) (hredirects : SettledRedirects client world k requests)
    {i : Nat} {a : HopRequest} {raw url : Text} (ha : requests[i]? = some a)
    (hleads : client.LeadsTo world (k + i) a raw)
    (hraw : canonicalRuntimeUrl client.tables client.limits.maxUrlChars raw = .ok url)
    (hrepeated : url ∈ visited ∨ ∃ j b, j ≤ i ∧ requests[j]? = some b ∧ b.target.url = url) :
    ∃ e, outcome = .error e := by
  induction h generalizing i with
  | refused => exact ⟨_, rfl⟩
  | failed => exact ⟨_, rfl⟩
  | answered opens sent final =>
    cases i with
    | zero =>
      cases ha
      obtain ⟨response, hsent, hstatus, -⟩ := hleads
      rw [Nat.add_zero, sent] at hsent
      cases hsent
      exact absurd hstatus final
    | succ i => cases ha
  | @followed n k current visited _ request next _ requests _ opens follows rest ih =>
    have hurl := opens.url hkept
    cases i with
    | zero =>
      cases ha
      obtain ⟨raw', hleads', hraw'⟩ := follows.leads
      have hnext : next = url := by
        obtain ⟨response, hsent, -, hjoined⟩ := hleads
        obtain ⟨response', hsent', -, hjoined'⟩ := hleads'
        rw [Nat.add_zero, hsent'] at hsent
        cases hsent
        rw [hjoined'] at hjoined
        cases hjoined
        rw [hraw'] at hraw
        exact Except.ok.inj hraw
      refine chain_visited rest (hnext ▸ ?_)
      rcases hrepeated with hvisited | ⟨j, b, hj, hb, rfl⟩
      · exact List.mem_cons_of_mem _ hvisited
      · rw [Nat.le_zero.1 hj] at hb
        cases hb
        rw [hurl]
        exact List.mem_cons_self
    | succ i =>
      rw [Nat.add_comm i 1, ← Nat.add_assoc] at hleads
      refine ih (hredirects.kept follows) hredirects.tail ha hleads ?_
      rcases hrepeated with hvisited | ⟨j, b, hj, hb, rfl⟩
      · exact .inl (List.mem_cons_of_mem _ hvisited)
      · cases j with
        | zero =>
          cases hb
          rw [hurl]
          exact .inl List.mem_cons_self
        | succ j => exact .inr ⟨j, b, Nat.le_of_succ_le_succ hj, hb, rfl⟩

theorem tame_profileHeaders (tables : Tables) (profile : MediaRequestProfile) :
    Tame tables (profileHeaders profile) := by
  have hall : ∀ profile : MediaRequestProfile, ∀ h ∈ profileHeaders profile,
      h.1.all isAscii = true ∧ h.1.map Char.toLower ∉ rangeNames := by
    rintro (_ | _)
    · exact fun h hmem => absurd hmem List.not_mem_nil
    · decide
  intro h hmem
  obtain ⟨hascii, hname⟩ := hall profile h hmem
  rw [lower, if_pos hascii]
  exact .inr hname

theorem Tame.append {tables : Tables} {more : Headers} (h : Tame tables headers)
    (hmore : Tame tables more) : Tame tables (headers ++ more) := by
  intro header hheader
  rcases List.mem_append.1 hheader with hheader | hheader
  · exact h header hheader
  · exact hmore header hheader

theorem tame_addRanges {tables : Tables} {asked added : Headers} (h : Tame tables headers)
    (hadded : addRanges tables asked headers = .ok added) : Tame tables added := by
  induction asked generalizing headers with
  | nil =>
    cases hadded
    exact h
  | cons header asked ih =>
    obtain ⟨rawName, value⟩ := header
    unfold addRanges at hadded
    dsimp only at hadded
    split at hadded
    · cases hadded
    · rename_i hchecks
      refine ih (h.append fun header hheader => ?_) hadded
      rw [List.mem_singleton.1 hheader]
      exact .inl (Decidable.not_not.1 (not_or.1 hchecks).1)

theorem tame_requestHeaders {tables : Tables} {profile : MediaRequestProfile} {asked : Headers}
    (h : requestHeaders tables profile asked = .ok headers) : Tame tables headers := by
  obtain ⟨ranged, hranged, h⟩ := except_bind_ok h
  cases h
  refine (tame_addRanges (tame_profileHeaders tables profile) hranged).append ?_
  have hall : ∀ h ∈ [("Accept".toList, "*/*".toList), ("Accept-Encoding".toList,
      "identity".toList)], h.1.all isAscii = true ∧ h.1.map Char.toLower ∉ rangeNames := by
    decide
  intro header hheader
  obtain ⟨hascii, hname⟩ := hall header hheader
  rw [lower, if_pos hascii]
  exact .inr hname

/-- What holds of the requests of every chain. -/
structure Contained (client : SafeHttpClient) (world : HttpWorld) (requests : List HopRequest) :
    Prop where
  bounded : requests.length ≤ client.limits.maxRedirects + 1
  pinned : ∀ i request, requests[i]? = some request →
    Pinned client.tables (world.resolve i) request.target
  connected : ∀ i request, requests[i]? = some request →
    ∀ peer ∈ client.connections world i request,
      peer = (request.target.address, request.target.port)
  upward : requests.Pairwise fun a b =>
    a.target.scheme = "https".toList → b.target.scheme = "https".toList
  ranged : ∀ first ∈ requests.head?, ∀ (i j : Nat) (a b : HopRequest), i ≤ j →
    requests[i]? = some a → requests[j]? = some b → a.target.origin ≠ first.target.origin →
      Unranged client.tables b.headers

/-- No URL is requested again: a redirect to one ends the chain with an error. -/
structure Unrepeated (client : SafeHttpClient) (world : HttpWorld) (requests : List HopRequest)
    (outcome : Except NetworkError (HttpResponse × ValidatedTarget)) : Prop where
  distinct : (requests.map fun a => a.target.url).Nodup
  refused : ∀ i j a b raw, j ≤ i → requests[i]? = some a → requests[j]? = some b →
    client.LeadsTo world i a raw →
    canonicalRuntimeUrl client.tables client.limits.maxUrlChars raw = .ok b.target.url →
      ∃ e, outcome = .error e

theorem chain_contained (hspelled : Spelled client.tables client.limits.maxUrlChars current)
    (htame : Tame client.tables headers)
    (h : client.Chain world (client.limits.maxRedirects + 1) 0 current [] headers requests outcome) :
    Contained client world requests := by
  refine ⟨chain_length h, fun i request hi => ?_, fun i request _ peer hpeer => ?_, chain_upward h,
    fun first hfirst i j a b hij ha hb hleft => ?_⟩
  · have hpinned := chain_pinned h hi
    rwa [Nat.zero_add] at hpinned
  · obtain ⟨dial, -, hdial⟩ := List.mem_filterMap.1 hpeer
    exact connectTcp_target hdial
  · have hopens : ∃ headers, client.Opens world 0 current [] headers first := by
      cases h with
      | refused => cases hfirst
      | failed opens =>
        cases hfirst
        exact ⟨_, opens⟩
      | answered opens =>
        cases hfirst
        exact ⟨_, opens⟩
      | followed opens =>
        cases hfirst
        exact ⟨_, opens⟩
    obtain ⟨_, hopens⟩ := hopens
    have horigin : HasOrigin client current first.target.origin :=
      fun resolver target htarget => origin_unique hspelled htarget hopens.target
    exact chain_ranged h hspelled htame horigin hij ha hb hleft

theorem chain_unrepeated (hkept : Kept client current)
    (h : client.Chain world (client.limits.maxRedirects + 1) 0 current [] headers requests outcome)
    (hredirects : SettledRedirects client world 0 requests) :
    Unrepeated client world requests outcome := by
  refine ⟨(chain_distinct h hkept hredirects).2, fun i j a b raw hj ha hb hleads hraw => ?_⟩
  refine chain_repeated h hkept hredirects ha ?_ hraw (.inr ⟨j, b, hj, hb, rfl⟩)
  rwa [Nat.zero_add]

end Runs

/-- A stream, over every resolver, every transport and every clock: its requests are contained, and
where the hosts of the start URL and of the redirects are settled, no URL comes again. -/
theorem stream_contained (client : SafeHttpClient) (world : HttpWorld) (url : Text)
    (headers : Headers) (profile : MediaRequestProfile) (timeout : Option ℚ) :
    Contained client world (client.stream world url headers profile timeout).1 ∧
      (SettledHost client.tables url →
        SettledRedirects client world 0 (client.stream world url headers profile timeout).1 →
        Unrepeated client world (client.stream world url headers profile timeout).1
          (client.stream world url headers profile timeout).2) := by
  have hnone : Contained client world [] :=
    ⟨Nat.zero_le _, fun i request hi => (by cases hi), fun i request hi => (by cases hi), .nil,
      fun first hfirst => (by cases hfirst)⟩
  have hnever : ∀ e, Unrepeated client world [] (.error e) :=
    fun e => ⟨List.nodup_nil, fun i j a b raw hj ha => (by cases ha)⟩
  unfold SafeHttpClient.stream
  split
  · exact ⟨hnone, fun _ _ => hnever _⟩
  · rename_i current hcurrent
    split
    · exact ⟨hnone, fun _ _ => hnever _⟩
    · rename_i request hrequest
      have hchain := chain_hops client world (client.totalTimeout timeout)
        (client.limits.maxRedirects + 1) 0 current [] request
      exact ⟨chain_contained ⟨url, hcurrent⟩ (tame_requestHeaders hrequest) hchain,
        fun hsettled hredirects =>
          chain_unrepeated (fun v hv => hsettled.again hcurrent hv) hchain hredirects⟩

theorem sampleLimits_valid : (0 : ℚ) < 120 ∧
    0 < 4096 ∧ 0 < 64 ∧ 0 < 8192 ∧ 0 < 65536 := by
  decide

/-- The default limits. -/
def defaultLimits : NetworkLimits :=
  ⟨5, 120, 4096, 64, 8192, 65536, sampleLimits_valid.1, sampleLimits_valid.2⟩

def samplePublic : IpAddress :=
  ⟨4, 134744072, "8.8.8.8".toList, true, false, false, false, false, false, false⟩

def sampleClient : SafeHttpClient where
  tables := { plainTables with
    ipAddress := fun t => if t = "8.8.8.8".toList then some samplePublic else none }
  limits := defaultLimits

/-- Every answer redirects to the other one of two hosts. -/
def loopWorld : HttpWorld where
  resolve _ _ _ := .ok ["8.8.8.8".toList]
  dials _ request := [("c".toList, 80), (request.target.hostname, request.target.port)]
  send k _ := .ok ⟨302, [("Location".toList, if k = 0 then "//b/".toList else "//a/".toList)]⟩
  started := 0
  clock _ := 0
  urljoin _ location := some ("http:".toList ++ location)

def loopRequest (host : Text) (ranges : Headers) : HopRequest where
  target := ⟨"http://".toList ++ host ++ "/".toList, "http".toList, host, 80, "8.8.8.8".toList⟩
  headers := ranges ++ [("Accept".toList, "*/*".toList),
    ("Accept-Encoding".toList, "identity".toList), ("Host".toList, host)]

theorem settledHost_a : SettledHost sampleClient.tables "http://a/".toList :=
  settledHost_of_split "a".toList "a".toList
    (s := ⟨"http".toList, "a".toList, "/".toList, [], []⟩) (by decide +kernel) (by decide +kernel)
    (by decide +kernel)
    ⟨⟨by decide, List.all_eq_true.1 (by decide), fun h => absurd h (by decide),
      fun _ => by decide⟩, by decide, by decide⟩

theorem settledHost_b : SettledHost sampleClient.tables "http://b/".toList :=
  settledHost_of_split "b".toList "b".toList
    (s := ⟨"http".toList, "b".toList, "/".toList, [], []⟩) (by decide +kernel) (by decide +kernel)
    (by decide +kernel)
    ⟨⟨by decide, List.all_eq_true.1 (by decide), fun h => absurd h (by decide),
      fun _ => by decide⟩, by decide, by decide⟩

/-- The third hop starts from the URL of the first one, and the range stays with the first host. -/
theorem stream_contained_sample :
    let chain := sampleClient.stream loopWorld "http://a/".toList
      [("Range".toList, "bytes=5-".toList)] .default none
    chain = ([loopRequest "a".toList [("range".toList, "bytes=5-".toList)],
        loopRequest "b".toList []], .error .downloadRedirectInvalid) ∧
      sampleClient.connections loopWorld 0
          (loopRequest "a".toList [("range".toList, "bytes=5-".toList)]) =
        [("8.8.8.8".toList, 80)] ∧
      Contained sampleClient loopWorld chain.1 ∧
      Unrepeated sampleClient loopWorld chain.1 chain.2 := by
  intro chain
  have hchain : chain = ([loopRequest "a".toList [("range".toList, "bytes=5-".toList)],
      loopRequest "b".toList []], .error .downloadRedirectInvalid) := by
    decide +kernel
  have hredirects : SettledRedirects sampleClient loopWorld 0 chain.1 := by
    rw [hchain]
    rintro i request raw hrequest ⟨response, hsent, -, hjoined⟩
    cases hsent
    match i with
    | 0 =>
      cases hrequest
      cases hjoined
      exact settledHost_b
    | 1 =>
      cases hrequest
      cases hjoined
      exact settledHost_a
    | i + 2 => cases hrequest
  obtain ⟨hcontained, hunrepeated⟩ := stream_contained sampleClient loopWorld "http://a/".toList
    [("Range".toList, "bytes=5-".toList)] .default none
  exact ⟨hchain, by decide +kernel, hcontained, hunrepeated settledHost_a hredirects⟩

/-- The first answer redirects to the root of its host, the second one is final. -/
def rootWorld : HttpWorld where
  resolve _ _ _ := .ok ["8.8.8.8".toList]
  dials _ request := [(request.target.hostname, request.target.port)]
  send k _ :=
    .ok (if k = 0 then ⟨302, [("Location".toList, "/".toList)]⟩ else ⟨200, []⟩)
  started := 0
  clock _ := 0
  urljoin _ _ := some "http://a/".toList

/-- The first request goes to the URL that it is redirected to. -/
theorem ideographic_stop_requested_twice :
    let chain := sampleClient.stream rootWorld "http://a\u3002/".toList [] .default none
    chain.1.map (fun request => request.target.url) =
        ["http://a/".toList, "http://a/".toList] ∧
      chain.2.toOption.map (fun answer => answer.1.status) = some 200 := by
  decide +kernel

end MediaSync.Network
