import MediaSync.Security.OperatorBoundary
import MediaSync.Security.OperatorFailures

/-!
# Operator authority

A request that reaches the application was public, or it showed an authority
that the history of the runtime gives at the moment of the check. The history
holds the calls of every request and of every other caller, in one order.
-/

namespace MediaSync.Security

open Transaction Transition Program OperatorAuthRuntime

/-- A question of a request, with the calls of everybody before it. -/
structure Question where
  before : List AuthEvent
  event : AuthEvent

/-- The decision's questions are calls of the history, in order, and it ends with the response;
`pre` is the part of the history that has passed. -/
inductive Decides (h : List AuthEvent) :
    List AuthEvent → Asking Response → List Question → Response → Prop
  | done {pre : List AuthEvent} {response : Response} : Decides h pre (pure response) [] response
  | asks {pre mid post : List AuthEvent} {e : AuthEvent} {asked : List Question}
      {response : Response} {k : Except AuthError AuthAnswer → Asking Response} :
      h = pre ++ mid ++ e :: post → Decides h (pre ++ mid ++ [e]) (k e.result) asked response →
      Decides h pre (.call e.call k) (⟨pre ++ mid, e⟩ :: asked) response

/-- The questions are calls that the history holds after `pre`, one after another. -/
def Follows (h : List AuthEvent) : List AuthEvent → List Question → Prop
  | _, [] => True
  | pre, q :: rest =>
    (∃ mid post, q.before = pre ++ mid ∧ h = q.before ++ q.event :: post) ∧
      Follows h (q.before ++ [q.event]) rest

variable {h pre : List AuthEvent} {asked : List Question} {response : Response}

theorem Decides.follows {p : Asking Response} (hd : Decides h pre p asked response) :
    Follows h pre asked := by
  induction hd with
  | done => exact trivial
  | asks hh _ ih => exact ⟨⟨_, _, rfl, hh⟩, ih⟩

/-- The call was made when the history had come to `before`. -/
def Asked (h before : List AuthEvent) (e : AuthEvent) : Prop := ∃ post, h = before ++ e :: post

namespace Question

variable (q : Question)

end Question

section

variable {δ : Type} [DecidableEq δ] {host : AuthHost δ} {settings : AuthSettings}
  {s t : AuthState δ} {c : String × Option String} {e : AuthEvent} {before : List AuthEvent}

/-- A run of the runtime since it was built with accepted credentials. -/
structure RuntimeRun (host : AuthHost δ) (settings : AuthSettings) (c : String × Option String)
    (h : List AuthEvent) : Prop where
  lawful : host.Lawful
  valid : validOperatorSecrets host c.1 c.2 = true
  timely : Timely h
  trace : ∃ t, Trace (authStep host settings) (initial host c.1 c.2) h t

namespace RuntimeRun

end RuntimeRun

variable {m : OperatorAuthMiddleware} {authority : Option AuthMethod}

end

/-- The tokens are those of thirty-two zero bytes. -/
def sampleHost : AuthHost (Domain × Octets) where
  digest := Prod.mk
  newOpaqueToken d _ := match d with
    | .sessionCookie => "Kl7h2HBM1mckdjaPXKa6i-5naE7ODr3XqMdwdBy2njE"
    | _ => "CpEh1ycSOcl_qCXIknmnIZZGcjaNWbDM-xe-ne-6qKs"
  isOther c := c.toNat < 0x20 || c.toNat = 0x7F

theorem sampleHost_lawful : sampleHost.Lawful where
  digest_injective _ _ _ h := (Prod.mk.inj h).2
  token_isOpaque d _ := by
    have hcookie : isOpaque "Kl7h2HBM1mckdjaPXKa6i-5naE7ODr3XqMdwdBy2njE" = true := by
      decide +kernel
    have hcsrf : isOpaque "CpEh1ycSOcl_qCXIknmnIZZGcjaNWbDM-xe-ne-6qKs" = true := by
      decide +kernel
    cases d with
    | sessionCookie => exact hcookie
    | _ => exact hcsrf

def sampleSettings : AuthSettings := ⟨28800, 5, 60, by decide, by decide, by decide⟩

def sampleCredentials : String × Option String := ("correct horse battery", none)

def sampleBytes : Octets := List.replicate 32 0

def sampleIssued : IssuedSession :=
  ⟨sampleHost.newOpaqueToken .sessionCookie sampleBytes,
    sampleHost.newOpaqueToken .sessionCsrf sampleBytes, 28800⟩

def sampleFailed : AuthEvent :=
  ⟨.login (some "wrong") sampleBytes sampleBytes, 0, .error .loginFailed⟩

def sampleLogin : AuthEvent :=
  ⟨.login (some sampleCredentials.1) sampleBytes sampleBytes, 1, .ok (.issued sampleIssued)⟩

/-- The question of the request below. -/
def sampleQuestion : AuthEvent :=
  ⟨.session (some sampleIssued.cookieValue), 2,
    .ok (.view (some ⟨sampleIssued.csrfToken, 28799⟩))⟩

def sampleEvents : List AuthEvent := [sampleFailed, sampleLogin, sampleQuestion]

def sampleOpened : AuthState (Domain × Octets) :=
  { initial sampleHost sampleCredentials.1 sampleCredentials.2 with
    session := some (openSession sampleHost sampleSettings 1 sampleIssued.cookieValue
      sampleIssued.csrfToken) }

theorem sampleRun : RuntimeRun sampleHost sampleSettings sampleCredentials sampleEvents where
  lawful := sampleHost_lawful
  valid := by decide +kernel
  timely := by
    unfold Timely
    decide +kernel
  trace := by
    have hfailed : authStep sampleHost sampleSettings
        (initial sampleHost sampleCredentials.1 sampleCredentials.2) sampleFailed
        { initial sampleHost sampleCredentials.1 sampleCredentials.2 with failures := [0] } := by
      unfold authStep
      decide +kernel
    have hopened : authStep sampleHost sampleSettings
        { initial sampleHost sampleCredentials.1 sampleCredentials.2 with failures := [0] }
        sampleLogin sampleOpened := by
      unfold authStep
      decide +kernel
    have hviewed : authStep sampleHost sampleSettings sampleOpened sampleQuestion
        sampleOpened := by
      unfold authStep
      decide +kernel
    exact ⟨sampleOpened, .cons hfailed (.cons hopened (.cons hviewed .nil))⟩

def sampleHeader (name value : String) : Header := (encode name, encode value)

end MediaSync.Security
