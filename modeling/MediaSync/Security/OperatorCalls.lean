import MediaSync.Foundation.Transition
import MediaSync.Security.OperatorAuth

/-!
# Calls of the operator runtime

A history is the list of the calls in the order in which they held the lock,
each with the moment that the clock gave and with its answer. What a call can do
to the session, to the failures and to the credentials is said here once, and
the invariants are derived from it.
-/

namespace MediaSync.Security

open Transaction Transition OperatorAuthRuntime FailureLimiter

/-- What the digests and the tokens promise. -/
structure AuthHost.Lawful {δ : Type} (host : AuthHost δ) : Prop where
  digest_injective : ∀ d a b, host.digest d a = host.digest d b → a = b
  token_isOpaque : ∀ d bytes, isOpaque (host.newOpaqueToken d bytes) = true

theorem size_utf8Encode (cs : List Char) : cs.utf8Encode.size = (cs.map Char.utf8Size).sum := by
  induction cs with
  | nil => rfl
  | cons c cs ih =>
    rw [List.utf8Encode_cons, ByteArray.size_append, ih, List.utf8Encode_singleton]
    simp

theorem encode_length (value : String) :
    (encode value).length = (value.toList.map Char.utf8Size).sum := by
  rw [← size_utf8Encode, String.utf8Encode_toList, encode, Array.length_toList]
  rfl

inductive AuthCall where
  | login (submitted : Option String) (cookieBytes csrfBytes : Octets)
  | session (cookie : Option String)
  | bearer (token : Option String)
  | verify (cookie csrf : Option String)
  | logout (cookie : Option String)
  | rotate (browser : String) (bearer : Option String)
  deriving DecidableEq

inductive AuthAnswer where
  | issued (session : IssuedSession)
  | view (session : Option SessionView)
  | verdict (accepted : Bool)
  | rotated
  deriving DecidableEq

structure AuthEvent where
  call : AuthCall
  now : ℚ
  result : Except AuthError AuthAnswer

section

variable {δ : Type} [DecidableEq δ] (host : AuthHost δ) (settings : AuthSettings)

/-- One method of the runtime at the moment `now`. -/
def runCall (now : ℚ) : AuthCall → AuthTx δ AuthAnswer
  | .login submitted cookieBytes csrfBytes => do
    let issued ← login host settings submitted cookieBytes csrfBytes now
    pure (.issued issued)
  | .session cookie => do
    let view ← session host cookie now
    pure (.view view)
  | .bearer token => do
    let accepted ← authenticateBearer host token
    pure (.verdict accepted)
  | .verify cookie csrf => do
    let accepted ← verifyCookieCsrf host cookie csrf now
    pure (.verdict accepted)
  | .logout cookie => do
    let removed ← logout host cookie now
    pure (.verdict removed)
  | .rotate browser bearer => do
    rotateCredentials host browser bearer
    pure .rotated

def authStep (s : AuthState δ) (e : AuthEvent) (t : AuthState δ) : Prop :=
  runCall host settings e.now e.call s = (e.result, t)

/-- What a call can do, and what it answers. -/
inductive AuthMove (now : ℚ) (s t : AuthState δ) :
    AuthCall → Except AuthError AuthAnswer → Prop
  | limited {submitted : Option String} {cookieBytes csrfBytes : Octets} {seconds : Int} :
      settings.failureLimit ≤ (prune settings now s.failures).length →
      t = { s with failures := prune settings now s.failures } →
      AuthMove now s t (.login submitted cookieBytes csrfBytes) (.error (.loginRateLimited seconds))
  | failed {submitted : Option String} {cookieBytes csrfBytes : Octets} :
      (prune settings now s.failures).length < settings.failureLimit →
      host.digest .browserCredential (candidateBytes submitted false false) ≠ s.browserDigest →
      t = { s with failures := prune settings now s.failures ++ [now] } →
      AuthMove now s t (.login submitted cookieBytes csrfBytes) (.error .loginFailed)
  | opened {submitted : Option String} {cookieBytes csrfBytes : Octets} {issued : IssuedSession} :
      (prune settings now s.failures).length < settings.failureLimit →
      host.digest .browserCredential (candidateBytes submitted false false) = s.browserDigest →
      issued = ⟨host.newOpaqueToken .sessionCookie cookieBytes,
        host.newOpaqueToken .sessionCsrf csrfBytes, settings.sessionTtlSeconds⟩ →
      t = { s with
        session := some (openSession host settings now issued.cookieValue issued.csrfToken)
        failures := [] } →
      AuthMove now s t (.login submitted cookieBytes csrfBytes) (.ok (.issued issued))
  | viewed {cookie : Option String} {view : Option SessionView} : t = expire now s →
      view = (t.session.filter (fun x => sessionDigest host cookie = x.cookieDigest)).map
        (fun x => ⟨x.csrfToken, max 1 ⌈x.expiresAt - now⌉⟩) →
      AuthMove now s t (.session cookie) (.ok (.view view))
  | compared {token : Option String} {accepted : Bool} : t = s →
      accepted = s.bearerDigest.any
        (fun d => host.digest .bearerCredential (candidateBytes token true false) = d) →
      AuthMove now s t (.bearer token) (.ok (.verdict accepted))
  | verified {cookie csrf : Option String} {accepted : Bool} : t = expire now s →
      accepted = t.session.any (fun x => sessionDigest host cookie = x.cookieDigest &&
        host.digest .sessionCsrf (candidateBytes csrf false true) = x.csrfDigest) →
      AuthMove now s t (.verify cookie csrf) (.ok (.verdict accepted))
  | kept {cookie : Option String} : t = expire now s →
      (∀ x, t.session = some x → sessionDigest host cookie ≠ x.cookieDigest) →
      AuthMove now s t (.logout cookie) (.ok (.verdict false))
  | removed {cookie : Option String} {x : OperatorSession δ} : (expire now s).session = some x →
      sessionDigest host cookie = x.cookieDigest → t = { expire now s with session := none } →
      AuthMove now s t (.logout cookie) (.ok (.verdict true))
  | refused {browser : String} {bearer : Option String} :
      validOperatorSecrets host browser bearer = false → t = s →
      AuthMove now s t (.rotate browser bearer) (.error .configurationInvalid)
  | rotated {browser : String} {bearer : Option String} :
      validOperatorSecrets host browser bearer = true → t = initial host browser bearer →
      AuthMove now s t (.rotate browser bearer) (.ok .rotated)

variable {host settings}

theorem login_moves {submitted : Option String} {cookieBytes csrfBytes : Octets} {now : ℚ}
    {s t : AuthState δ} {r : Except AuthError AuthAnswer}
    (h : runCall host settings now (.login submitted cookieBytes csrfBytes) s = (r, t)) :
    AuthMove host settings now s t (.login submitted cookieBytes csrfBytes) r := by
  simp only [runCall, login, Tx.run_bind, Tx.run_modify, Tx.run_read] at h
  cases hretry : retryAfter settings now (prune settings now s.failures) with
  | some seconds =>
    simp only [hretry, Tx.run_throw] at h
    cases h
    refine .limited ?_ rfl
    by_contra hlt
    rw [retryAfter, if_pos (Nat.lt_of_not_le hlt)] at hretry
    cases hretry
  | none =>
    have hlt : (prune settings now s.failures).length < settings.failureLimit := by
      by_contra hge
      rw [retryAfter, if_neg hge, Option.map_eq_none_iff, List.head?_eq_none_iff] at hretry
      rw [hretry] at hge
      exact hge settings.limit_pos
    simp only [hretry] at h
    by_cases hd : host.digest .browserCredential (candidateBytes submitted false false) =
        s.browserDigest
    · rw [if_pos hd] at h
      cases h
      exact .opened hlt hd rfl rfl
    · rw [if_neg hd] at h
      simp only [Tx.run_bind, Tx.run_modify, Tx.run_throw, recordFailure, if_pos hlt] at h
      cases h
      exact .failed hlt hd rfl

theorem authStep_moves {s t : AuthState δ} {e : AuthEvent} (h : authStep host settings s e t) :
    AuthMove host settings e.now s t e.call e.result := by
  obtain ⟨call, now, r⟩ := e
  change runCall host settings now call s = (r, t) at h
  cases call with
  | login submitted cookieBytes csrfBytes => exact login_moves h
  | session cookie =>
    cases h
    exact .viewed rfl rfl
  | bearer token =>
    cases h
    exact .compared rfl rfl
  | verify cookie csrf =>
    cases h
    exact .verified rfl rfl
  | logout cookie =>
    simp only [runCall, logout, Tx.run_bind, Tx.run_modify, Tx.run_read] at h
    cases hany : (expire now s).session.any
        (fun x => sessionDigest host cookie = x.cookieDigest) with
    | true =>
      obtain ⟨x, hx, hd⟩ := (Option.any_eq_true ..).1 hany
      simp only [hany] at h
      cases h
      exact .removed hx (of_decide_eq_true hd) rfl
    | false =>
      simp only [hany] at h
      cases h
      refine .kept rfl fun x hx hd => ?_
      rw [if_neg (by simp)] at hx
      rw [hx] at hany
      simp [hd] at hany
  | rotate browser bearer =>
    simp only [runCall, rotateCredentials, Tx.run_bind, Tx.run_require, Tx.run_modify] at h
    cases hvalid : validOperatorSecrets host browser bearer with
    | true =>
      simp only [hvalid, if_true] at h
      cases h
      exact .rotated hvalid rfl
    | false =>
      simp only [hvalid, Bool.false_eq_true, if_false] at h
      cases h
      exact .refused hvalid rfl

end

end MediaSync.Security
