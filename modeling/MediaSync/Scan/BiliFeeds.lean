import MediaSync.Scan.Bili

/-!
# Two feeds of one creator

A subscription may scan a creator's uploads, the dynamics, or both in turn. The
dynamics have two lanes of their own; a page of them is first saved as a
snapshot, which the state names by its digest, and consumed by later units.
The state of the feed that a unit does not scan stays as it is.

Snapshot files are not part of the model: a unit is given the page it lists or
loads.
-/

namespace MediaSync.Scan

/-- `BILI_DYNAMIC_PAGE_SIZE`. -/
def biliDynamicPageSize : Nat := 30

/-- `[A-Za-z0-9_-]{0,256}`. -/
def validOffset (s : String) : Bool :=
  s.toList.length ≤ 256 && s.toList.all (fun c => isAsciiAlphanum c || c = '_' || c = '-')

/-- `[0-9a-f]{64}`. -/
def validDigest (s : String) : Bool :=
  s.toList.length = 64 && s.toList.all (fun c => isDigit c || ('a' ≤ c && c ≤ 'f'))

/-- `BiliDynamicSnapshotRef.__post_init__`. -/
structure DynamicRef.Valid (digest offset nextOffset : String) (sourceEnd : Bool)
    (count : Nat) : Prop where
  digestShape : validDigest digest = true
  offsetShape : validOffset offset = true
  nextShape : validOffset nextOffset = true
  size : count ≤ biliDynamicPageSize
  goesOn : sourceEnd = false → nextOffset ≠ ""

instance DynamicRef.decidableValid (digest offset nextOffset : String) (sourceEnd : Bool) (count : Nat) :
    Decidable (DynamicRef.Valid digest offset nextOffset sourceEnd count) :=
  decidable_of_iff
    (validDigest digest = true ∧ validOffset offset = true ∧ validOffset nextOffset = true ∧
      count ≤ biliDynamicPageSize ∧ (sourceEnd = false → nextOffset ≠ ""))
    ⟨fun ⟨h1, h2, h3, h4, h5⟩ => ⟨h1, h2, h3, h4, h5⟩,
      fun h => ⟨h.digestShape, h.offsetShape, h.nextShape, h.size, h.goesOn⟩⟩

/-- `BiliDynamicSnapshotRef`. -/
structure DynamicRef where
  digest : String
  offset : String
  nextOffset : String
  sourceEnd : Bool
  count : Nat
  valid : DynamicRef.Valid digest offset nextOffset sourceEnd count
  deriving DecidableEq

/-- `DYNAMIC_TYPE_[A-Z_]{1,40}`. -/
def validDynamicType (s : String) : Bool :=
  match s.toList.dropPrefix? "DYNAMIC_TYPE_".toList with
  | some rest =>
    1 ≤ rest.length && rest.length ≤ 40 &&
      rest.all (fun c => ('A' ≤ c && c ≤ 'Z') || c = '_')
  | none => false

/-- `BiliDynamicIdentity`; its id has the form of an upload's. -/
structure DynamicIdentity where
  did : String
  dynamicType : String
  pubTs : Pubdate
  authorMid : Nat
  valid : validAid did = true ∧ validDynamicType dynamicType = true ∧
    1 ≤ authorMid ∧ authorMid ≤ 2 ^ 63 - 1
  deriving DecidableEq

/-- `BiliDynamicPage.__post_init__`. -/
structure DynamicPage.Valid (ref : DynamicRef) (identities : List DynamicIdentity) : Prop where
  length : identities.length = ref.count
  dids : (identities.map DynamicIdentity.did).Nodup

instance DynamicPage.decidableValid (ref : DynamicRef) (identities : List DynamicIdentity) :
    Decidable (DynamicPage.Valid ref identities) :=
  decidable_of_iff
    (identities.length = ref.count ∧ (identities.map DynamicIdentity.did).Nodup)
    ⟨fun ⟨h1, h2⟩ => ⟨h1, h2⟩, fun h => ⟨h.length, h.dids⟩⟩

/-- `BiliDynamicPage`. -/
structure DynamicPage where
  ref : DynamicRef
  identities : List DynamicIdentity
  valid : DynamicPage.Valid ref identities
  deriving DecidableEq

/-- `BiliDynamicLane.__post_init__`. -/
structure DynamicLane.Valid (offset : String) (snapshot : Option DynamicRef) (index : Nat)
    (seenOffsets : List String) : Prop where
  offsetShape : validOffset offset = true
  indexRange : index ≤ biliDynamicPageSize
  unseen : snapshot = none → index = 0
  fits : ∀ ref ∈ snapshot, ref.offset = offset ∧ index ≤ ref.count
  seenLength : seenOffsets.length ≤ 64
  seenDigests : ∀ digest ∈ seenOffsets, validDigest digest = true
  seenOnce : seenOffsets.Nodup

instance DynamicLane.decidableValid (offset : String) (snapshot : Option DynamicRef) (index : Nat)
    (seenOffsets : List String) :
    Decidable (DynamicLane.Valid offset snapshot index seenOffsets) :=
  decidable_of_iff
    (validOffset offset = true ∧ index ≤ biliDynamicPageSize ∧ (snapshot = none → index = 0) ∧
      (∀ ref ∈ snapshot, ref.offset = offset ∧ index ≤ ref.count) ∧
      seenOffsets.length ≤ 64 ∧ (∀ digest ∈ seenOffsets, validDigest digest = true) ∧
      seenOffsets.Nodup)
    ⟨fun ⟨h1, h2, h3, h4, h5, h6, h7⟩ => ⟨h1, h2, h3, h4, h5, h6, h7⟩,
      fun h => ⟨h.offsetShape, h.indexRange, h.unseen, h.fits, h.seenLength, h.seenDigests,
        h.seenOnce⟩⟩

/-- `BiliDynamicLane`. -/
structure DynamicLane where
  offset : String
  snapshot : Option DynamicRef
  index : Nat
  seenOffsets : List String
  valid : DynamicLane.Valid offset snapshot index seenOffsets
  deriving DecidableEq

namespace DynamicLane

/-- `BiliDynamicLane()`. -/
def start : DynamicLane := ⟨"", none, 0, [], by decide⟩

def make (offset : String) (snapshot : Option DynamicRef) (index : Nat)
    (seenOffsets : List String) : Except ScanError DynamicLane :=
  if h : Valid offset snapshot index seenOffsets then
    .ok ⟨offset, snapshot, index, seenOffsets, h⟩
  else .error .invalid

end DynamicLane

/-- `BiliDynamicState`. -/
structure DynamicState where
  nextLane : BiliLaneName
  head : DynamicLane
  history : DynamicLane
  deriving DecidableEq

def DynamicState.initial : DynamicState := ⟨.head, .start, .start⟩

inductive BiliScope where
  | uploads | dynamics | both
  deriving DecidableEq, Repr

inductive BiliFeedName where
  | uploads | dynamics
  deriving DecidableEq, Repr

/-- `self.scope == "both" or self.next_feed == self.scope`. -/
def BiliScope.allows : BiliScope → BiliFeedName → Bool
  | .both, _ => true
  | .uploads, feed => feed = .uploads
  | .dynamics, feed => feed = .dynamics

/-- `BiliMultiFeedState`. -/
structure MultiFeedState where
  uploads : BiliScanState
  scope : BiliScope
  nextFeed : BiliFeedName
  dynamics : DynamicState
  valid : scope.allows nextFeed = true
  deriving DecidableEq

namespace MultiFeedState

def make (uploads : BiliScanState) (scope : BiliScope) (nextFeed : BiliFeedName)
    (dynamics : DynamicState) : Except ScanError MultiFeedState :=
  if h : scope.allows nextFeed = true then .ok ⟨uploads, scope, nextFeed, dynamics, h⟩
  else .error .invalid

end MultiFeedState

/-! ## One unit over the dynamics -/

def isVideo (identity : DynamicIdentity) : Bool := identity.dynamicType = "DYNAMIC_TYPE_AV"

/-- `BiliDynamicConsumption.__post_init__`. -/
structure DynamicConsumption.Valid (identity : DynamicIdentity)
    (videoIdentity : Option BiliIdentity) : Prop where
  video : isVideo identity = videoIdentity.isSome
  supported : identity.dynamicType ∈
    ["DYNAMIC_TYPE_WORD", "DYNAMIC_TYPE_DRAW", "DYNAMIC_TYPE_AV"]

instance DynamicConsumption.decidableValid (identity : DynamicIdentity)
    (videoIdentity : Option BiliIdentity) :
    Decidable (DynamicConsumption.Valid identity videoIdentity) :=
  decidable_of_iff
    (isVideo identity = videoIdentity.isSome ∧ identity.dynamicType ∈
      ["DYNAMIC_TYPE_WORD", "DYNAMIC_TYPE_DRAW", "DYNAMIC_TYPE_AV"])
    ⟨fun ⟨h1, h2⟩ => ⟨h1, h2⟩, fun h => ⟨h.video, h.supported⟩⟩

/-- `BiliDynamicConsumption`. -/
structure DynamicConsumption where
  identity : DynamicIdentity
  videoIdentity : Option BiliIdentity
  valid : DynamicConsumption.Valid identity videoIdentity
  deriving DecidableEq

def DynamicConsumption.cost (c : DynamicConsumption) : Nat :=
  if c.videoIdentity.isSome then 2 else 1

inductive DynamicReason where
  | snapshotSaved | itemLimit | pageEnd | sourceEnd | restarted
  deriving DecidableEq, Repr

inductive Observation where
  | list | load
  deriving DecidableEq, Repr

inductive DynamicAction where
  | stop
  | list (offset : String)
  | load (snapshot : DynamicRef)
  | detail (identity : DynamicIdentity)
  deriving DecidableEq

structure DynamicUnit where
  limit : Nat
  inputState : MultiFeedState
  state : MultiFeedState
  lane : BiliLaneName
  page : Option DynamicPage
  observation : Option Observation
  consumed : List DynamicConsumption
  reason : Option DynamicReason
  deriving DecidableEq

/-- The record of a unit of either feed. The source keeps whatever a line
names as feed, observation and reason until `validate` refuses it. -/
structure MultiFeedCoverage where
  inputState : MultiFeedState
  nextState : MultiFeedState
  feed : BiliFeedName
  uploads : Option BiliScanCoverage
  page : Option DynamicPage
  observation : Option Observation
  dynamicConsumed : List DynamicConsumption
  reason : Option DynamicReason
  deriving DecidableEq

namespace DynamicUnit

/-- The fields that `BiliDynamicUnit.__init__` sets. -/
def fresh (state : MultiFeedState) (maxItems : Nat) : DynamicUnit :=
  ⟨min maxItems biliDynamicPageSize, state, state, state.dynamics.nextLane, none, none, [], none⟩

/-- `BiliDynamicUnit(state, max_items)`. -/
def new (state : MultiFeedState) (maxItems : Nat) : Except ScanError DynamicUnit :=
  if state.nextFeed = .dynamics ∧ 2 ≤ maxItems ∧ maxItems ≤ 1000 then .ok (fresh state maxItems)
  else .error .invalid

def current (u : DynamicUnit) : DynamicLane :=
  match u.lane with
  | .head => u.state.dynamics.head
  | .history => u.state.dynamics.history

/-- `_set_lane`. -/
def setLane (u : DynamicUnit) (lane : DynamicLane) : DynamicUnit :=
  match u.lane with
  | .head =>
    { u with state := { u.state with dynamics := { u.state.dynamics with head := lane } } }
  | .history =>
    { u with state := { u.state with dynamics := { u.state.dynamics with history := lane } } }

def stopped (u : DynamicUnit) (reason : DynamicReason) : DynamicUnit :=
  { u with reason := some reason }

/-- `sum(item.cost for item in self.consumed)`. -/
def spent (u : DynamicUnit) : Nat := (u.consumed.map DynamicConsumption.cost).sum

/-- The lane is through with its page. -/
def leavePage (sha256 : String → String) (u : DynamicUnit) (ref : DynamicRef) :
    Except ScanError DynamicUnit :=
  if ref.sourceEnd then .ok ((u.setLane .start).stopped .sourceEnd)
  else if ref.nextOffset = u.current.offset ∨ sha256 ref.nextOffset ∈ u.current.seenOffsets then
    .ok ((u.setLane .start).stopped .restarted)
  else do
    let seen := u.current.seenOffsets ++ [sha256 u.current.offset]
    let lane ← DynamicLane.make ref.nextOffset none 0 (seen.drop (seen.length - 64))
    .ok ((u.setLane lane).stopped .pageEnd)

def nextAction (sha256 : String → String) (u : DynamicUnit) :
    Except ScanError (DynamicAction × DynamicUnit) :=
  if u.reason.isSome then .ok (.stop, u)
  else match u.current.snapshot, u.page with
    | none, _ => .ok (.list u.current.offset, u)
    | some ref, none => .ok (.load ref, u)
    | some _, some page =>
      if u.current.index = page.identities.length then do
        let u ← u.leavePage sha256 page.ref
        .ok (.stop, u)
      else match page.identities[u.current.index]? with
        | none => .error .index
        | some identity =>
          if u.limit < u.spent + (if isVideo identity then 2 else 1) then
            .ok (.stop, u.stopped .itemLimit)
          else .ok (.detail identity, u)

def observePage (sha256 : String → String) (u : DynamicUnit) (page : DynamicPage) :
    Except ScanError DynamicUnit := do
  let (action, u) ← u.nextAction sha256
  match action with
  | .list offset =>
    if page.ref.offset = offset then do
      let lane ← DynamicLane.make u.current.offset (some page.ref) u.current.index
        u.current.seenOffsets
      .ok { (u.setLane lane).stopped .snapshotSaved with
        page := some page, observation := some .list }
    else .error .invalid
  | .load ref =>
    if page.ref = ref then .ok { u with page := some page, observation := some .load }
    else .error .invalid
  | _ => .error .invalid

/-- A video consumed before and one consumed now share an id but are not the same. -/
def clashes (previous : DynamicConsumption) (videoIdentity : Option BiliIdentity) : Bool :=
  match previous.videoIdentity, videoIdentity with
  | some x, some y => (x.aid = y.aid || x.bvid = y.bvid) && x ≠ y
  | _, _ => false

/-- `consume`, once the action fits. -/
def consumeNext (u : DynamicUnit) (identity : DynamicIdentity)
    (videoIdentity : Option BiliIdentity) : Except ScanError DynamicUnit :=
  if h : DynamicConsumption.Valid identity videoIdentity then
    if u.consumed.any (fun previous =>
        previous.identity.did = identity.did || clashes previous videoIdentity) then
      .error .invalid
    else do
      let lane ← DynamicLane.make u.current.offset u.current.snapshot (u.current.index + 1)
        u.current.seenOffsets
      .ok ({ u with consumed := u.consumed ++ [DynamicConsumption.mk identity videoIdentity h] }.setLane lane)
  else .error .invalid

def consume (sha256 : String → String) (u : DynamicUnit) (identity : DynamicIdentity)
    (videoIdentity : Option BiliIdentity) : Except ScanError DynamicUnit := do
  let (action, u) ← u.nextAction sha256
  if action = .detail identity then u.consumeNext identity videoIdentity else .error .invalid

def coverage (sha256 : String → String) (u : DynamicUnit) :
    Except ScanError MultiFeedCoverage := do
  let (action, u) ← u.nextAction sha256
  match action, u.reason, u.page, u.observation with
  | .stop, some reason, some page, some observation => do
    let dynamics := { u.state.dynamics with nextLane := otherLane u.lane }
    let nextState ← MultiFeedState.make u.state.uploads u.state.scope
      (if u.state.scope = .both then .uploads else .dynamics) dynamics
    .ok ⟨u.inputState, nextState, .dynamics, none, some page, some observation, u.consumed,
      some reason⟩
  | _, _, _, _ => .error .invalid

end DynamicUnit

/-- `wrap_upload_coverage`. -/
def wrapUploadCoverage (inputState : MultiFeedState) (coverage : BiliScanCoverage) :
    Except ScanError MultiFeedCoverage :=
  if inputState.nextFeed = .uploads ∧ coverage.inputState = inputState.uploads then do
    let nextState ← MultiFeedState.make coverage.nextState inputState.scope
      (if inputState.scope = .both then .dynamics else .uploads) inputState.dynamics
    .ok ⟨inputState, nextState, .uploads, some coverage, none, none, [], none⟩
  else .error .invalid

end MediaSync.Scan
